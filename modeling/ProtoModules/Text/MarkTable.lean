import ProtoModules.Text.Ranges

/-! The characters of Unicode 14 whose canonical combining class is not zero, as ranges of code points
in hexadecimal. -/

namespace ProtoModules.Text

def markTable : List CodeRange :=
  CodeRange.parseList [
    "300-34e 350-36f 483-487 591-5bd 5bf 5c1-5c2 5c4-5c5 5c7 610-61a 64b-65f 670 6d6-6dc 6df-6e4",
    "6e7-6e8 6ea-6ed 711 730-74a 7eb-7f3 7fd 816-819 81b-823 825-827 829-82d 859-85b 898-89f 8ca-8e1",
    "8e3-8ff 93c 94d 951-954 9bc 9cd 9fe a3c a4d abc acd b3c b4d bcd c3c c4d c55-c56 cbc ccd d3b-d3c",
    "d4d dca e38-e3a e48-e4b eb8-eba ec8-ecb f18-f19 f35 f37 f39 f71-f72 f74 f7a-f7d f80 f82-f84",
    "f86-f87 fc6 1037 1039-103a 108d 135d-135f 1714-1715 1734 17d2 17dd 18a9 1939-193b 1a17-1a18 1a60",
    "1a75-1a7c 1a7f 1ab0-1abd 1abf-1ace 1b34 1b44 1b6b-1b73 1baa-1bab 1be6 1bf2-1bf3 1c37 1cd0-1cd2",
    "1cd4-1ce0 1ce2-1ce8 1ced 1cf4 1cf8-1cf9 1dc0-1dff 20d0-20dc 20e1 20e5-20f0 2cef-2cf1 2d7f",
    "2de0-2dff 302a-302f 3099-309a a66f a674-a67d a69e-a69f a6f0-a6f1 a806 a82c a8c4 a8e0-a8f1",
    "a92b-a92d a953 a9b3 a9c0 aab0 aab2-aab4 aab7-aab8 aabe-aabf aac1 aaf6 abed fb1e fe20-fe2f 101fd",
    "102e0 10376-1037a 10a0d 10a0f 10a38-10a3a 10a3f 10ae5-10ae6 10d24-10d27 10eab-10eac 10f46-10f50",
    "10f82-10f85 11046 11070 1107f 110b9-110ba 11100-11102 11133-11134 11173 111c0 111ca 11235-11236",
    "112e9-112ea 1133b-1133c 1134d 11366-1136c 11370-11374 11442 11446 1145e 114c2-114c3 115bf-115c0",
    "1163f 116b6-116b7 1172b 11839-1183a 1193d-1193e 11943 119e0 11a34 11a47 11a99 11c3f 11d42",
    "11d44-11d45 11d97 16af0-16af4 16b30-16b36 16ff0-16ff1 1bc9e 1d165-1d169 1d16d-1d172 1d17b-1d182",
    "1d185-1d18b 1d1aa-1d1ad 1d242-1d244 1e000-1e006 1e008-1e018 1e01b-1e021 1e023-1e024 1e026-1e02a",
    "1e130-1e136 1e2ae 1e2ec-1e2ef 1e8d0-1e8d6 1e944-1e94a"]

end ProtoModules.Text

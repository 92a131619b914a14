import ProtoModules.Text.Blank
import ProtoModules.Text.Word

/-! Pictures by name: a known name between colons, in letters of either case, is shown as its picture.
Behind `-text` or `-emoji` it asks for the form of plain text or for the colored one. -/

namespace ProtoModules.CommandLine.Emoji
open Text

def pictures : List (String × String) :=
  [("+1", "👍"), ("-1", "👎"), ("100", "💯"), ("1234", "🔢"), ("8ball", "🎱"), ("a", "🅰"), ("ab", "🆎"),
    ("abc", "🔤"), ("abcd", "🔡"), ("alien", "👽"), ("ambulance", "🚑"), ("anchor", "⚓"),
    ("angel", "👼"), ("angry", "😠"), ("ant", "🐜"), ("apple", "🍎"), ("art", "🎨"), ("b", "🅱"),
    ("baby", "👶"), ("back", "🔙"), ("bear", "🐻"), ("bee", "🐝"), ("beer", "🍺"), ("bell", "🔔"),
    ("bird", "🐦"), ("blush", "😊"), ("bomb", "💣"), ("book", "📖"), ("books", "📚"), ("boom", "💥"),
    ("broken_heart", "💔"), ("bug", "🐛"), ("bulb", "💡"), ("camera", "📷"), ("car", "🚗"),
    ("chart_with_upwards_trend", "📈"), ("clap", "👏"), ("clipboard", "📋"), ("cloud", "☁"),
    ("coffee", "☕"), ("computer", "💻"), ("construction", "🚧"), ("cool", "🆒"), ("crab", "🦀"),
    ("cross_mark", "❌"), ("crown", "👑"), ("cry", "😢"), ("dizzy", "💫"), ("end", "🔚"),
    ("exclamation", "❗"), ("eyes", "👀"), ("file_folder", "📁"), ("fire", "🔥"), ("fish", "🐟"),
    ("flags", "🎏"), ("free", "🆓"), ("frog", "🐸"), ("gear", "⚙"), ("gem", "💎"), ("ghost", "👻"),
    ("gift", "🎁"), ("globe_with_meridians", "🌐"), ("grin", "😁"), ("grinning", "😀"),
    ("hammer", "🔨"), ("heart", "❤"), ("heart_eyes", "😍"), ("heavy_check_mark", "✔"),
    ("heavy_plus_sign", "➕"), ("hourglass", "⌛"), ("house", "🏠"), ("id", "🆔"), ("joy", "😂"),
    ("key", "🔑"), ("laughing", "😆"), ("leaves", "🍃"), ("link", "🔗"), ("lock", "🔒"), ("m", "Ⓜ"),
    ("mag", "🔍"), ("mag_right", "🔎"), ("memo", "📝"), ("microscope", "🔬"), ("moneybag", "💰"),
    ("muscle", "💪"), ("new", "🆕"), ("ng", "🆖"), ("no_entry", "⛔"), ("o", "⭕"), ("ok", "🆗"),
    ("ok_hand", "👌"), ("on", "🔛"), ("open_file_folder", "📂"), ("package", "📦"),
    ("page_facing_up", "📄"), ("panda_face", "🐼"), ("pencil2", "✏"), ("penguin", "🐧"),
    ("pile_of_poo", "💩"), ("pizza", "🍕"), ("poop", "💩"), ("pray", "🙏"), ("pushpin", "📌"),
    ("question", "❓"), ("raccoon", "🦝"), ("rainbow", "🌈"), ("recycle", "♻"), ("red_heart", "❤"),
    ("robot_face", "🤖"), ("rocket", "🚀"), ("rose", "🌹"), ("scissors", "✂"), ("scream", "😱"),
    ("shield", "🛡"), ("ship", "🚢"), ("smile", "😄"), ("smiley", "😃"), ("snail", "🐌"),
    ("snake", "🐍"), ("snowflake", "❄"), ("sob", "😭"), ("soon", "🔜"), ("sos", "🆘"),
    ("sparkle", "❇"), ("sparkles", "✨"), ("speech_balloon", "💬"), ("star", "⭐"),
    ("stop_sign", "🛑"), ("sunglasses", "😎"), ("sunny", "☀"), ("tada", "🎉"), ("thinking_face", "🤔"),
    ("thumbs_down", "👎"), ("thumbs_up", "👍"), ("thumbsdown", "👎"), ("thumbsup", "👍"), ("tm", "™"),
    ("top", "🔝"), ("trophy", "🏆"), ("tv", "📺"), ("unlock", "🔓"), ("up", "🆙"), ("v", "✌"),
    ("vampire", "🧛"), ("vs", "🆚"), ("warning", "⚠"), ("wastebasket", "🗑"), ("watch", "⌚"),
    ("wave", "👋"), ("white_check_mark", "✅"), ("wink", "😉"), ("wrench", "🔧"), ("x", "❌"),
    ("yum", "😋"), ("zap", "⚡"), ("zzz", "💤")]

/-- A name without the form that it asks for, and the character that selects the form. -/
def form (name : List Char) : List Char × List Char :=
  if "-emoji".toList.isSuffixOf name then (name.take (name.length - 6), ['\ufe0f'])
  else if "-text".toList.isSuffixOf name then (name.take (name.length - 5), ['\ufe0e'])
  else (name, [])

def picture? (name : List Char) : Option (List Char) :=
  let (name, selector) := form name
  (pictures.lookup (String.ofList (name.map toLower))).map fun shown => shown.toList ++ selector

/-- A name without blanks between two colons, and the text behind it. -/
def code? : List Char → Option (List Char × List Char)
  | ':' :: rest =>
    let name := rest.takeWhile fun c => c != ':' && !isBlank c
    match rest.drop name.length with
    | ':' :: behind => some (name, behind)
    | _ => none
  | _ => none

/-- Names are read from left to right; an unknown one uses up its colons. -/
def shownIn : (fuel : Nat) → List Char → List Char
  | 0, s => s
  | _, [] => []
  | fuel + 1, c :: rest =>
    match code? (c :: rest) with
    | some (name, behind) =>
      ((picture? name).getD (':' :: name ++ [':'])) ++ shownIn fuel behind
    | none => c :: shownIn fuel rest

def shown (s : List Char) : List Char := shownIn s.length s

end ProtoModules.CommandLine.Emoji

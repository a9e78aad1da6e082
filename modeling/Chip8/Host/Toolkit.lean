import Chip8.Settings.Datum

/-!
# The toolkit of the host

What the window system of a host decides by itself: the codes of the keys by their names, and which colours and sizes
can be painted. It is not part of the program, so any other may take its place. The standard one has the names of a
usual keyboard, and paints everything.
-/

namespace Chip8.Host

class Toolkit where
  /-- The code of a key name, in exactly this case. -/
  codeOf? : (name : String) → Option Nat
  paintsColor : (color : Datum) → Bool
  paintsSize : (width height : Nat) → Bool

/-- The keys of a keyboard: runs of names with consecutive codes, each after the code of its first. -/
def keyRows : List (Nat × List String) :=
  [ (0x20, ["Any"]),
    (0x20, ["Space", "Exclam", "QuoteDbl", "NumberSign", "Dollar", "Percent", "Ampersand", "Apostrophe",
      "ParenLeft", "ParenRight", "Asterisk", "Plus", "Comma", "Minus", "Period", "Slash", "0", "1", "2",
      "3", "4", "5", "6", "7", "8", "9", "Colon", "Semicolon", "Less", "Equal", "Greater", "Question", "At",
      "A", "B", "C", "D", "E", "F", "G", "H", "I", "J", "K", "L", "M", "N", "O", "P", "Q", "R", "S", "T",
      "U", "V", "W", "X", "Y", "Z", "BracketLeft", "Backslash", "BracketRight", "AsciiCircum", "Underscore",
      "QuoteLeft"]),
    (0x7b, ["BraceLeft", "Bar", "BraceRight", "AsciiTilde"]),
    (0xa0, ["nobreakspace", "exclamdown", "cent", "sterling", "currency", "yen", "brokenbar", "section",
      "diaeresis", "copyright", "ordfeminine", "guillemotleft", "notsign", "hyphen", "registered", "macron",
      "degree", "plusminus", "twosuperior", "threesuperior", "acute", "micro"]),
    (0xb5, ["mu", "paragraph", "periodcentered", "cedilla", "onesuperior", "masculine", "guillemotright",
      "onequarter", "onehalf", "threequarters", "questiondown", "Agrave", "Aacute", "Acircumflex", "Atilde",
      "Adiaeresis", "Aring", "AE", "Ccedilla", "Egrave", "Eacute", "Ecircumflex", "Ediaeresis", "Igrave",
      "Iacute", "Icircumflex", "Idiaeresis", "ETH", "Ntilde", "Ograve", "Oacute", "Ocircumflex", "Otilde",
      "Odiaeresis", "multiply", "Ooblique", "Ugrave", "Uacute", "Ucircumflex", "Udiaeresis", "Yacute",
      "THORN", "ssharp"]),
    (0xf7, ["division"]),
    (0xff, ["ydiaeresis"]),
    (0x1000000, ["Escape", "Tab", "Backtab", "Backspace", "Return", "Enter", "Insert", "Delete", "Pause",
      "Print", "SysReq", "Clear"]),
    (0x1000010, ["Home", "End", "Left", "Up", "Right", "Down", "PageUp", "PageDown"]),
    (0x1000020, ["Shift", "Control", "Meta", "Alt", "CapsLock", "NumLock", "ScrollLock"]),
    (0x1000030, ["F1", "F2", "F3", "F4", "F5", "F6", "F7", "F8", "F9", "F10", "F11", "F12", "F13", "F14",
      "F15", "F16", "F17", "F18", "F19", "F20", "F21", "F22", "F23", "F24", "F25", "F26", "F27", "F28",
      "F29", "F30", "F31", "F32", "F33", "F34", "F35", "Super_L", "Super_R", "Menu", "Hyper_L", "Hyper_R",
      "Help", "Direction_L"]),
    (0x1000060, ["Direction_R", "Back", "Forward", "Stop", "Refresh"]),
    (0x1000070, ["VolumeDown", "VolumeMute", "VolumeUp", "BassBoost", "BassUp", "BassDown", "TrebleUp",
      "TrebleDown"]),
    (0x1000080, ["MediaPlay", "MediaStop", "MediaPrevious", "MediaNext", "MediaRecord", "MediaPause",
      "MediaTogglePlayPause"]),
    (0x1000090, ["HomePage", "Favorites", "Search", "Standby", "OpenUrl"]),
    (0x10000a0, ["LaunchMail", "LaunchMedia", "Launch0", "Launch1", "Launch2", "Launch3", "Launch4",
      "Launch5", "Launch6", "Launch7", "Launch8", "Launch9", "LaunchA", "LaunchB", "LaunchC", "LaunchD",
      "LaunchE", "LaunchF", "MonBrightnessUp", "MonBrightnessDown", "KeyboardLightOnOff",
      "KeyboardBrightnessUp", "KeyboardBrightnessDown", "PowerOff", "WakeUp", "Eject", "ScreenSaver", "WWW",
      "Memo", "LightBulb", "Shop", "History", "AddFavorite", "HotLinks", "BrightnessAdjust", "Finance",
      "Community", "AudioRewind", "BackForward", "ApplicationLeft", "ApplicationRight", "Book", "CD",
      "Calculator", "ToDoList", "ClearGrab", "Close", "Copy", "Cut", "Display", "DOS", "Documents", "Excel",
      "Explorer", "Game", "Go", "iTouch", "LogOff", "Market", "Meeting", "MenuKB", "MenuPB", "MySites",
      "News", "OfficeHome", "Option", "Paste", "Phone", "Calendar", "Reply", "Reload", "RotateWindows",
      "RotationPB", "RotationKB", "Save", "Send", "Spell", "SplitScreen", "Support", "TaskPane", "Terminal",
      "Tools", "Travel", "Video", "Word", "Xfer", "ZoomIn", "ZoomOut", "Away", "Messenger", "WebCam",
      "MailForward", "Pictures", "Music", "Battery", "Bluetooth", "WLAN", "UWB", "AudioForward",
      "AudioRepeat", "AudioRandomPlay", "Subtitle", "AudioCycleTrack", "Time", "Hibernate", "View",
      "TopMenu", "PowerDown", "Suspend", "ContrastAdjust", "LaunchG", "LaunchH", "TouchpadToggle",
      "TouchpadOn", "TouchpadOff", "MicMute", "Red", "Green", "Yellow", "Blue", "ChannelUp", "ChannelDown",
      "Guide", "Info", "Settings", "MicVolumeUp", "MicVolumeDown", "Keyboard", "New", "Open", "Find",
      "Undo", "Redo"]),
    (0x1001103, ["AltGr"]),
    (0x1001120, ["Multi_key", "Kanji", "Muhenkan", "Henkan", "Romaji", "Hiragana", "Katakana",
      "Hiragana_Katakana", "Zenkaku", "Hankaku", "Zenkaku_Hankaku", "Touroku", "Massyo", "Kana_Lock",
      "Kana_Shift", "Eisu_Shift", "Eisu_toggle", "Hangul", "Hangul_Start", "Hangul_End", "Hangul_Hanja",
      "Hangul_Jamo", "Hangul_Romaja", "Codeinput", "Hangul_Jeonja", "Hangul_Banja", "Hangul_PreHanja",
      "Hangul_PostHanja", "SingleCandidate", "MultipleCandidate", "PreviousCandidate", "Hangul_Special"]),
    (0x100117e, ["Mode_switch"]),
    (0x1001250, ["Dead_Grave", "Dead_Acute", "Dead_Circumflex", "Dead_Tilde", "Dead_Macron", "Dead_Breve",
      "Dead_Abovedot", "Dead_Diaeresis", "Dead_Abovering", "Dead_Doubleacute", "Dead_Caron", "Dead_Cedilla",
      "Dead_Ogonek", "Dead_Iota", "Dead_Voiced_Sound", "Dead_Semivoiced_Sound", "Dead_Belowdot",
      "Dead_Hook", "Dead_Horn", "Dead_Stroke", "Dead_Abovecomma", "Dead_Abovereversedcomma",
      "Dead_Doublegrave", "Dead_Belowring", "Dead_Belowmacron", "Dead_Belowcircumflex", "Dead_Belowtilde",
      "Dead_Belowbreve", "Dead_Belowdiaeresis", "Dead_Invertedbreve", "Dead_Belowcomma", "Dead_Currency"]),
    (0x1001280, ["Dead_a", "Dead_A", "Dead_e", "Dead_E", "Dead_i", "Dead_I", "Dead_o", "Dead_O", "Dead_u",
      "Dead_U", "Dead_Small_Schwa", "Dead_Capital_Schwa", "Dead_Greek"]),
    (0x1001290, ["Dead_Lowline", "Dead_Aboveverticalline", "Dead_Belowverticalline",
      "Dead_Longsolidusoverlay"]),
    (0x100ffff, ["MediaLast", "Select", "Yes", "No"]),
    (0x1020001, ["Cancel", "Printer", "Execute", "Sleep", "Play", "Zoom"]),
    (0x102000a, ["Exit"]),
    (0x1100000, ["Context1", "Context2", "Context3", "Context4", "Call", "Hangup", "Flip",
      "ToggleCallHangup", "VoiceDial", "LastNumberRedial"]),
    (0x1100020, ["Camera", "CameraFocus"]),
    (0x1ffffff, ["unknown"]) ]

def keyNames : List (String × Nat) :=
  keyRows.flatMap fun (first, names) => names.zipIdx.map fun (name, k) => (name, first + k)

/-- The code of a key name, in exactly this case. -/
def code? (name : String) : Option Nat := keyNames.lookup name

instance standardToolkit : Toolkit where
  codeOf? := code?
  paintsColor _ := true
  paintsSize _ _ := true

end Chip8.Host

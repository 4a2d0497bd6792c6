import IrcClient.Handling.Registration

/-!
# Modes

A mode string is read letter by letter: `+` and `-` set the direction, prefix modes
are given to members or taken from them, list modes are left to the server, and all
other letters are flags of the channel. The flags of a channel are kept as a `+`
with the letters behind it in order, or as no text where there are none.
-/

namespace IrcClient.Handling

/-- The letters of a flag string. -/
def flagLetters (modes : String) : List Char :=
  modes.toList.filter (· ≠ '+')

/-- The flag string of some letters. -/
def flagString (letters : List Char) : String :=
  if letters.isEmpty then ""
  else "+" ++ String.ofList (letters.mergeSort fun a b => a.toNat ≤ b.toNat)

/-- A flag string with a letter set or unset. A string that has it so already is left alone. -/
def setFlag (modes : String) (mode : Char) (adding : Bool) : String :=
  let letters := flagLetters modes
  -- the order of a flag string that does not change is the server's
  if letters.contains mode = adding then modes
  else if adding then flagString (letters ++ [mode])
  else flagString (letters.filter (· ≠ mode))

/-- A mode string in the course of being read. -/
structure ModeRun where
  channel : Channel
  params : List String
  adding : Bool := true
  flagsChanged : Bool := false
  writes : List Write := []

namespace ModeRun

/-- Gives a prefix mode to a member, or takes it. Those who are not there are passed over. -/
def setMemberMode (s : Support) (r : ModeRun) (mode : Char) (nick : String) : ModeRun :=
  match r.channel.member? nick with
  | none => r
  | some m =>
    let modes :=
      if r.adding then s.sortPrefixModes (m.modes.push mode)
      else String.ofList (m.modes.toList.filter (· ≠ mode))
    let m' : Member := { m with modes }
    { r with
      channel := { r.channel with members := r.channel.members.insert (fold nick) m' }
      writes := r.writes ++ [.upsertMember r.channel.name m'] }

/-- Sets or unsets a flag of the channel. -/
def setChannelFlag (r : ModeRun) (mode : Char) : ModeRun :=
  let modes := setFlag r.channel.modes mode r.adding
  { r with
    channel := { r.channel with modes }
    flagsChanged := r.flagsChanged || modes ≠ r.channel.modes }

/-- Reads one character. -/
def step (s : Support) (r : ModeRun) : Char → ModeRun
  | '+' => { r with adding := true }
  | '-' => { r with adding := false }
  | mode =>
    let takes := s.takesParam mode r.adding
    let param := if takes then r.params.head? else none
    let r := { r with params := if takes then r.params.drop 1 else r.params }
    if s.isPrefixMode mode then
      -- a letter that lacks its parameter does nothing
      match param with
      | none => r
      | some nick => r.setMemberMode s mode nick
    else if s.isListMode mode then r
    else r.setChannelFlag mode

/-- Reads a mode string. -/
def read (s : Support) (r : ModeRun) (modes : String) : ModeRun :=
  modes.toList.foldl (step s) r

end ModeRun

/-- A change of modes: `:setter MODE <target> <modes> [params]`. Those of users are not kept. -/
def mode : Handler := fun net msg =>
  match msg.arg 0, msg.arg 1 with
  | some target, some modes =>
    if !net.support.isChannel target then (net, .empty)
    else
      let setter := msg.sourceNick.getD ""
      let before := net.channelOrNew target
      let name := before.name
      let r := ModeRun.read net.support
        { channel := before, params := msg.args.drop 2 } modes
      let change := " ".intercalate (msg.args.drop 1)
      (net.setChannel target r.channel,
        .only (!net.hasChannel target) (.write (.upsertChannel name)) ++
        .writing r.writes ++
        .only r.flagsChanged (.write (.modes name r.channel.modes)) ++
        .write (net.line .mode (setter ++ " sets mode " ++ change) (some name) (some setter)) ++
        .emit ((((net.event "channel.mode").setText "channel" name).setText "modes" change).setText
          "user" setter))
  | _, _ => (net, .empty)

/-- The modes: `324 <me> <channel> <modes> [params]`. Keys, limits and the like are not kept. -/
def channelModeIs : Handler := fun net msg =>
  match msg.arg 1, msg.arg 2 with
  | some target, some modes =>
    let before := net.channelOrNew target
    let name := before.name
    let flags := (flagLetters modes).foldl (setFlag · · true) ""
    (net.setChannel target { before with modes := flags },
      .only (!net.hasChannel target) (.write (.upsertChannel name)) ++
      .write (.modes name flags) ++
      .emit (((net.event "channel.mode").setText "channel" name).setText "modes" flags))
  | _, _ => (net, .empty)

end IrcClient.Handling

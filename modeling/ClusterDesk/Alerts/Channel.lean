import ClusterDesk.Network

/-!
# Alert channels

Where alerts are sent. A bot channel travels as its token and chat joined by a comma, and is split
again at the first comma.
-/

namespace ClusterDesk

inductive Method where
  | discord
  | telegram
deriving DecidableEq, Repr, Inhabited

namespace Method

def name : Method → String
  | .discord => "discord"
  | .telegram => "telegram"

def ofName? : String → Option Method
  | "discord" => some .discord
  | "telegram" => some .telegram
  | _ => none

def code : Method → UInt8
  | .discord => 0
  | .telegram => 1

/-- Zero is the webhook; every other code is the bot. -/
def ofCode (code : UInt8) : Method :=
  if code = 0 then .discord else .telegram

/-- Reads a typed name in any letter case. -/
def parse (s : String) : Except String Method :=
  match ofName? (Text.lower s) with
  | some method => .ok method
  | none => .error ("unknown alert method: " ++ Text.lower s)

end Method

inductive Channel where
  | discord (webhook : String)
  | telegram (token chat : String)
deriving DecidableEq, Repr

namespace Channel

def method : Channel → Method
  | .discord _ => .discord
  | .telegram _ _ => .telegram

def isComplete : Channel → Bool
  | .discord webhook => !Text.allBlank webhook
  | .telegram token chat => !Text.allBlank token && !Text.allBlank chat

def trimmed : Channel → Channel
  | .discord webhook => .discord (Text.trim webhook)
  | .telegram token chat => .telegram (Text.trim token) (Text.trim chat)

/-- The address as it travels. -/
def wire : Channel → String
  | .discord webhook => webhook
  | .telegram token chat => token ++ "," ++ chat

/-- The parts before and behind the first comma; without one, all of it and nothing. -/
def splitComma (cs : List Char) : List Char × List Char :=
  (cs.takeWhile (· != ','), (cs.dropWhile (· != ',')).drop 1)

def ofWire (method : Method) (address : String) : Channel :=
  match method with
  | .discord => .discord address
  | .telegram =>
    let (token, chat) := splitComma address.toList
    .telegram (String.ofList token) (String.ofList chat)

/-- The text for logs, which leaves the secrets out. -/
def redacted : Channel → String
  | .discord _ => "AlertChannel::Discord(<redacted>)"
  | .telegram _ _ => "AlertChannel::Telegram(<redacted>)"

end Channel

end ClusterDesk

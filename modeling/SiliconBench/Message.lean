import SiliconBench.Gpu.Outcome
import SiliconBench.Pattern
import SiliconBench.Value.Format

/-! # Message — the wording of refusals and warnings -/

namespace SiliconBench

/-- Texts with a comma between them. -/
def commaList (names : List String) : String :=
  ", ".intercalate names

/-- Why settings or requests were refused, in words. -/
def Refusal.message : Refusal Value → String
  | .belowZero name got => name ++ " must be >= 0, got " ++ got.display
  | .notPositive name got => name ++ " must be > 0, got " ++ got.display
  | .notFraction name got => name ++ " must be in [0, 1], got " ++ got.display
  | .belowOne name got => name ++ " must be >= 1, got " ++ got.display
  | .coreCount got => "cores must be a positive integer, got " ++ got.display
  | .mixPercent got => "instruction_mix_percent must be in [0, 100], got " ++ got.display
  | .freeMemory accessTime ratio =>
    "memory ops need a non-zero AMAT, got " ++ accessTime.display ++ " with a " ++
      ratio.shown (Decimal.percent 0) ++ " memory mix"
  | .unstable constant milliseconds bound =>
    "thermal time constant R*C = " ++ constant.shown (Decimal.general 4) ++
      " s is too short for a " ++ milliseconds.shown (Decimal.fixed 0) ++
      " ms step (must exceed " ++ bound.shown (Decimal.general 4) ++ " s)"
  | .unknownPattern echo =>
    "Unknown access pattern '" ++ echo ++ "' (expected one of: " ++
      commaList (Pattern.all.map Pattern.word) ++ ")"
  | .unknownKernel echo => "Unknown GPU benchmark: " ++ echo
  | .unknownFields part names => "Unknown " ++ part ++ " field(s): " ++ commaList names
  | .unknownLevels names => "Unknown cache level(s): " ++ commaList names
  | .notTable part kind => part ++ " expects a mapping, got " ++ kind

/-- The most characters of a text that a message quotes. -/
def quoteLimit : Nat := 200

/-- Why a value did not fit, in words. -/
def Misfit.message : Misfit → String
  | .notWholeNumeral text =>
    "invalid literal for int() with base 10: " ++
      String.ofList ((Text.quoted text).toList.take quoteLimit)
  | .notRealNumeral text => "could not convert string to float: " ++ Text.quoted text
  | .undefinedWhole => "cannot convert float NaN to integer"
  | .negativeSeed => "expected non-negative integer"
  | .noWidth => "range() arg 3 must not be zero"
  | .textLayout => "Unknown format code 'f' for object of type 'str'"

/-- What a finished run says when it is asked for another tick. -/
def finishedMessage : String := "GPU simulation has already finished"

/-- A number without its fraction. -/
def countText (v : Value) : String :=
  match v.truncate with
  | .ok n => toString n
  | .error _ => v.display

/-- What a user should know, in words. -/
def Warning.message : Warning Value → String
  | .capReached cap =>
    "Instruction stream exceeds cap of " ++ countText cap ++
      " instructions; remaining lines ignored"
  | .budgetSpent name maxTicks percent =>
    name.display ++ ": tick budget of " ++ countText maxTicks ++ " exhausted at " ++
      percent.shown (Decimal.fixed 1) ++ "% progress; metrics are best-effort"

end SiliconBench

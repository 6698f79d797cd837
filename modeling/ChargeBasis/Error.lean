import ChargeBasis.Calendar.DateText
import ChargeBasis.Json.Decode
import ChargeBasis.Loan
import ChargeBasis.Money.Quotient
import ChargeBasis.Text.Quoted

/-!
What can go wrong in a computation. A charge error belongs to the period, to the configuration or
to one loan and can be reported there; an overflow of an amount ends the computation.
-/

namespace ChargeBasis

/-- Why a date of a period could not be found. -/
inductive DateFault where
  | unresolvedBoundary (text : String) (fault : DateTextFault)
  | noDayAfter (day : Date)
  deriving DecidableEq

/-- The wording of a date fault. -/
def DateFault.message : DateFault → String
  | .unresolvedBoundary text fault =>
    "cannot resolve period boundary " ++ Text.quoted text ++ ": " ++ fault.message
  | .noDayAfter day => "no day follows " ++ day.text

/-- An error of a charge computation. -/
inductive ChargeError where
  | invalidPeriodCode (code : String)
  | dataAccessFailure (loan : LoanId) (reason : String)
  | inconsistentSeriesLength (loan : LoanId) (expected found : Nat)
  | invalidDate (fault : DateFault)
  | invalidDateRange (first last : Date)
  | unknownProduct (loan : LoanId) (product : ProductId)
  | invalidConfiguration (fault : Json.DecodeError)
  | calculationError (fault : CalculationFault)
  deriving DecidableEq

/-- The wording of a charge error. -/
def ChargeError.message : ChargeError → String
  | .invalidPeriodCode code => "invalid period code: " ++ Text.quoted code
  | .dataAccessFailure loan reason =>
    "repayment data unavailable for loan " ++ Digits.text loan.toNat ++ ": " ++ reason
  | .inconsistentSeriesLength loan expected found =>
    "inconsistent series length for loan " ++ Digits.text loan.toNat
      ++ ": expected " ++ Digits.text expected ++ ", found " ++ Digits.text found
  | .invalidDate fault => "invalid date: " ++ fault.message
  | .invalidDateRange first last =>
    "invalid date range: " ++ first.text ++ " is not before " ++ last.text
  | .unknownProduct loan product =>
    "loan " ++ Digits.text loan.toNat ++ " references unknown product "
      ++ Digits.text product.toNat
  | .invalidConfiguration fault => "invalid configuration: " ++ fault.message
  | .calculationError fault => "calculation error: " ++ fault.message

/-- What ends a computation early. -/
inductive Fault where
  | failed (error : ChargeError)
  | overflowed (kind : Overflow)
  deriving DecidableEq

/-- An overflow is a fault of the computation it happens in. -/
instance : MonadLift (Except Overflow) (Except Fault) :=
  ⟨fun x => x.mapError .overflowed⟩

/-- A charge error is a fault of the computation it happens in. -/
instance : MonadLift (Except ChargeError) (Except Fault) :=
  ⟨fun x => x.mapError .failed⟩

end ChargeBasis

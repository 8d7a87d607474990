/-
What is wrong with a key.

A key may be in no known form, belong to another family of algorithms, or hold numbers
that do not make a key.  The name of the fault is part of the message that reports it.
-/
namespace SessionAuth.Keys

/-- Why the numbers of an RSA key are refused. -/
inductive RsaFault
  | invalidEncoding
  | versionNotSupported
  | invalidComponent
  | inconsistentComponents
  | tooSmall
  | tooLarge
  | unevenPrimes
  | unexpected
  deriving DecidableEq, Repr

/-- The name of a fault. -/
def RsaFault.name : RsaFault → String
  | invalidEncoding => "InvalidEncoding"
  | versionNotSupported => "VersionNotSupported"
  | invalidComponent => "InvalidComponent"
  | inconsistentComponents => "InconsistentComponents"
  | tooSmall => "TooSmall"
  | tooLarge => "TooLarge"
  | unevenPrimes => "PrivateModulusLenNotMultipleOf512Bits"
  | unexpected => "UnexpectedError"

/-- Why a key cannot be loaded or used. -/
inductive KeyFault
  | unknownForm
  | badCurveKey
  | wrongFamily
  | badRsaKey (fault : RsaFault)
  | signingFailed
  deriving DecidableEq, Repr

/-- The name of a fault, as messages give it. -/
def KeyFault.name : KeyFault → String
  | unknownForm => "InvalidKeyFormat"
  | badCurveKey => "InvalidEcdsaKey"
  | wrongFamily => "InvalidAlgorithm"
  | badRsaKey fault => "RSA key invalid: " ++ fault.name
  | signingFailed => "RsaFailedSigning"

end SessionAuth.Keys

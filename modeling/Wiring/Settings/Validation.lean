import Wiring.Settings.Schema
import Wiring.Text.Integer

/-!
# Settings · Validation

What well-formed settings must satisfy beyond their types: fingerprints are hexadecimal, contracts
and what is decided for them are not blank, and a log file has a path. The first fault counts, in
the order of the fields and within a field in the order of the keys.
-/

namespace Wiring

/-- The fields that decide something for contracts. -/
inductive ContractField
  /-- Services to apply. -/
  | apply
  /-- Plugins to disable. -/
  | ignore
deriving DecidableEq, Repr

/-- The name of such a field. -/
def ContractField.name : ContractField → String
  | apply => "apply"
  | ignore => "ignore"

/-- What is wrong with settings. -/
inductive SettingsFault
  /-- A fingerprint is blank. -/
  | emptyFingerprint
  /-- A fingerprint has another character than hexadecimal digits. -/
  | badFingerprint (fingerprint : String)
  /-- A contract is blank. -/
  | blankContract (field : ContractField)
  /-- What is decided for a contract is blank. -/
  | emptyValue (field : ContractField) (contract : String)
  /-- The log goes to a file without a path. -/
  | missingFilePath
deriving DecidableEq, Repr

/-- The wording of a fault. -/
def SettingsFault.message : SettingsFault → String
  | emptyFingerprint => "Empty fingerprint in file_exclusion"
  | badFingerprint fingerprint =>
    s!"Fingerprint '{fingerprint}' in file_exclusion is not hexadecimal"
  | blankContract field => s!"Blank contract key in {field.name}"
  | emptyValue field contract => s!"Empty value for {field.name}.{contract}"
  | missingFilePath => "logging.output = \"file\" requires logging.file_path"

namespace Settings

/-- What is wrong with a fingerprint, if anything. -/
def fingerprintFault? (text : String) : Option SettingsFault :=
  let fingerprint := Text.trim text
  if fingerprint.isEmpty then some .emptyFingerprint
  else if fingerprint.toList.all Text.isHexDigit then none
  else some (.badFingerprint fingerprint)

/-- What is wrong with a decision for a contract, if anything. -/
def decisionFault? (field : ContractField) (decision : String × String) :
    Option SettingsFault :=
  if Text.isBlankText decision.1 then some (.blankContract field)
  else if Text.isBlankText decision.2 then some (.emptyValue field decision.1)
  else none

/-- What is wrong with the logging section, if anything. -/
def loggingFault? (logging : LoggingConfig) : Option SettingsFault :=
  if logging.output = .file ∧ logging.filePath = none then some .missingFilePath else none

/-- All faults, in order. -/
def faults (s : Settings) : List SettingsFault :=
  s.fileExclusion.toList.filterMap fingerprintFault?
    ++ s.apply.toList.filterMap (decisionFault? .apply)
    ++ s.ignore.toList.filterMap (decisionFault? .ignore)
    ++ (loggingFault? s.logging).toList

/-- Accepts settings without a fault. -/
def validate (s : Settings) : Except SettingsFault Unit :=
  match s.faults.head? with
  | some fault => .error fault
  | none => .ok ()

end Settings

end Wiring

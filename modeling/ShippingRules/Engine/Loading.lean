import ShippingRules.Engine.Basic
import ShippingRules.Settings.Record

/-!
Loading stored settings: reading them and normalizing their rules. A file is the list of its bytes,
or nothing where there is no file; its bytes have to be text in UTF-8.
-/
namespace ShippingRules

/-- Why a settings file cannot be read. -/
inductive FileError where
  | notFound
  | notText
  | settings (error : SettingsError)
deriving DecidableEq, Repr

def decodeText? (bytes : List UInt8) : Option String := String.fromUTF8? ⟨bytes.toArray⟩

namespace RuleSet

def ofFile (file : Option (List UInt8)) : Except FileError RuleSet :=
  match file with
  | none => .error .notFound
  | some bytes =>
    match decodeText? bytes with
    | none => .error .notText
    | some text => (parse text).mapError .settings

end RuleSet

namespace Engine

def loadSettings (engine : Engine) (text : String) : Except SettingsError RuleSet :=
  (RuleSet.parse text).map engine.normalizeSet

def loadFile (engine : Engine) (file : Option (List UInt8)) : Except FileError RuleSet :=
  (RuleSet.ofFile file).map engine.normalizeSet

end Engine

end ShippingRules

import Linkage.Graph
import Linkage.Text.Numeral

set_option autoImplicit false

namespace Linkage

inductive Side where
  | importing
  | exporting
deriving DecidableEq

namespace Side

def word : Side → String
  | .importing => "import"
  | .exporting => "export"

end Side

inductive Unsupported where
  | unparseable
  | malformedStatement (side : Side)
  | malformedSpecifier (side : Side)
  | importWithoutSource
  | wholeImportWithoutName
  | ambiguousExport
  | stringExportName
  | stringBindingName
  | wholeExportWithoutSource
  | anonymousDefault (kind : DefinitionKind)
  | variableKeyword (keyword : String)
  | destructuring
deriving DecidableEq

namespace Unsupported

def message : Unsupported → Text
  | .unparseable => Text.ofString "Unparseable import/export statement"
  | .malformedStatement side => Text.ofString ("Malformed " ++ side.word ++ " statement")
  | .malformedSpecifier side => Text.ofString ("Malformed " ++ side.word ++ " specifier")
  | .importWithoutSource => Text.ofString "Import without a module specifier"
  | .wholeImportWithoutName => Text.ofString "Namespace import without a name"
  | .ambiguousExport => Text.ofString "Ambiguous export statement"
  | .stringExportName => Text.ofString "String-literal export names are not supported"
  | .stringBindingName => Text.ofString "String-literal binding names are not supported"
  | .wholeExportWithoutSource => Text.ofString "Namespace export without a module specifier"
  | .anonymousDefault kind => Text.ofString ("Anonymous default export of a " ++ kind.words)
  | .variableKeyword keyword =>
    Text.ofString "Unsupported variable keyword " ++ Text.quoted (Text.ofString keyword)
  | .destructuring => Text.ofString "Destructuring export declarations are not supported"

end Unsupported

inductive DiskFault where
  | missing
  | denied
  | notDirectory
  | isDirectory
  | nameTooLong
deriving DecidableEq

namespace DiskFault

def number : DiskFault → Nat
  | .missing => 2
  | .denied => 13
  | .notDirectory => 20
  | .isDirectory => 21
  | .nameTooLong => 36

def words : DiskFault → String
  | .missing => "No such file or directory"
  | .denied => "Permission denied"
  | .notDirectory => "Not a directory"
  | .isDirectory => "Is a directory"
  | .nameTooLong => "File name too long"

def message (fault : DiskFault) (path : Text) : Text :=
  Text.ofString "[Errno " ++ Text.ofNat fault.number ++ Text.ofString "] " ++
    Text.ofString fault.words ++ Text.ofString ": " ++ Text.quoted path

end DiskFault

inductive Failure where
  | unsupported (reason : Unsupported) (span : Span) (file : Text)
  | unresolved (specifier : Text) (importer : Option Text)
  | disk (fault : DiskFault) (path : Text)
  | nulInPath
  -- A path, or a text that is to be encoded, with surrogates that no bytes stand for: the first of
  -- them, its place, and how many surrogates follow it.
  | unencodablePath (point : CodePoint) (place more : Nat)
  | noCodePoint
  | codePointOverflow
  | numeral (base : Numeral.Base) (text : Text)
  | tooManyDigits (count : Nat)
  | parts (fault : PartsFault)
  | noGrammar (name : Text)
  | unknownGrammar (name : Text)
  | undecodable (fault : Utf8.Fault)
  | wrongType (detail : Text)
  | noSuchPart (detail : Text)
  | noInteger (infinite : Bool)
  | ignorePattern (pattern : Text)
  | bracketRange
  | logLevel (name : Text)
  | noHome
deriving DecidableEq

namespace Failure

def located (complaint : Text) (span : Span) (file : Option Text) : Text :=
  complaint ++ Text.ofString " (" ++ file.getD [] ++ Text.ofString "@" ++ Text.ofInt span.start ++
    Text.ofString "-" ++ Text.ofInt span.stop ++ Text.ofString ")"

-- The complaint about a specifier; an empty importer is not mentioned.
def unresolvedText (specifier : Text) (importer : Option Text) : Text :=
  let base :=
    Text.ofString "Failed to resolve module specifier to a file with a supported extension: " ++
      Text.quoted specifier
  match importer with
  | none | some [] => base
  | some file => base ++ Text.ofString " (imported from " ++ file ++ Text.ofString ")"

def message : Failure → Text
  | .unsupported reason span file => located reason.message span (some file)
  | .unresolved specifier importer => unresolvedText specifier importer
  | .disk fault path => fault.message path
  | .nulInPath => Text.ofString "embedded null byte"
  | .unencodablePath point place 0 =>
    Text.ofString "'utf-8' codec can't encode character " ++
      [.scalar Text.singleQuote] ++ Text.numberEscape point.val ++ [.scalar Text.singleQuote] ++
      Text.ofString " in position " ++ Text.ofNat place ++ Text.ofString ": surrogates not allowed"
  | .unencodablePath _ place (more + 1) =>
    Text.ofString "'utf-8' codec can't encode characters in position " ++ Text.ofNat place ++
      Text.ofString "-" ++ Text.ofNat (place + more + 1) ++
      Text.ofString ": surrogates not allowed"
  | .noCodePoint => Text.ofString "chr() arg not in range(0x110000)"
  | .codePointOverflow => Text.ofString "Python int too large to convert to C int"
  | .numeral base text => Numeral.complaint base text
  | .tooManyDigits count =>
    Text.ofString "Exceeds the limit (4300 digits) for integer string conversion: value has " ++
      Text.ofNat count ++
      Text.ofString " digits; use sys.set_int_max_str_digits() to increase the limit"
  | .parts fault => Text.ofString fault.message
  | .noGrammar name => Text.ofString "No grammar available for file: " ++ Text.quoted name
  | .unknownGrammar name => Text.ofString "Unknown grammar: " ++ Text.quoted name
  | .undecodable fault => fault.message
  | .wrongType detail => detail
  | .noSuchPart detail => detail
  | .noInteger infinite =>
    Text.ofString (if infinite then "cannot convert float infinity to integer"
      else "cannot convert float NaN to integer")
  | .ignorePattern pattern => Text.ofString "Invalid git pattern: " ++ Text.quoted pattern
  | .bracketRange => Text.ofString "bad character range"
  | .logLevel name => Text.ofString "Unknown level: " ++ Text.quoted name
  | .noHome => Text.ofString "Could not determine home directory."

theorem ok_bind {α β : Type} (a : α) (f : α → Except Failure β) : (Except.ok a >>= f) = f a := rfl

theorem error_bind {α β : Type} (failure : Failure) (f : α → Except Failure β) :
    (Except.error failure >>= f) = .error failure := rfl

theorem bind_ok {ε α β : Type} (x : Except ε α) (f : α → Except ε β) (b : β)
    (done : (x >>= f) = .ok b) : ∃ a, x = .ok a ∧ f a = .ok b := by
  cases x with
  | error fault => cases done
  | ok a => exact ⟨a, rfl, done⟩

end Failure

structure FileFailure where
  file : Text
  cause : Failure
deriving DecidableEq

namespace FileFailure

def headline (file : Text) : Text := Text.ofString "Failed to parse file: " ++ file

def withCause (message : Text) : Option Text → Text
  | none => message
  | some cause => message ++ Text.ofString ": " ++ cause

def message (f : FileFailure) : Text := headline f.file

def describe (f : FileFailure) : Text := withCause f.message (some f.cause.message)

end FileFailure

end Linkage

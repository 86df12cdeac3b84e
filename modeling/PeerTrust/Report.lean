import PeerTrust.Mode

/-!
Reports: errors as callers see them.

Every part of the library has errors of its own, which say what went wrong in the terms of that
part.  A caller needs less: the category of the error, by which it is caught, what is said about
it, and the few facts that it carries.  `Report` is that common form, and each error type has one
function into it.  Categories form a hierarchy, so that all errors of the library can be caught as
`peerVerification`.
-/

namespace PeerTrust

/-- The category of an error. -/
inductive Category where
  | exception
  | value
  | type
  | index
  | runtime
  | os
  | fileNotFound
  | isDirectory
  | notDirectory
  | peerVerification
  | configuration
  | malformedHint
  | hostnameMismatch
  | chainValidation
  | unsupportedParameter
  | certificateVerification
  | certificateChain
  | certificateExpired
  | invalidSettings
deriving DecidableEq, Repr

namespace Category

/-- The categories that an error of this one is caught as, the most specific first. -/
def ancestry : Category → List Category
  | exception => [exception]
  | value => [value, exception]
  | type => [type, exception]
  | index => [index, exception]
  | runtime => [runtime, exception]
  | os => [os, exception]
  | fileNotFound => [fileNotFound, os, exception]
  | isDirectory => [isDirectory, os, exception]
  | notDirectory => [notDirectory, os, exception]
  | peerVerification => [peerVerification, exception]
  | configuration => [configuration, peerVerification, value, exception]
  | malformedHint => [malformedHint, peerVerification, value, exception]
  | hostnameMismatch => [hostnameMismatch, peerVerification, exception]
  | chainValidation => [chainValidation, peerVerification, exception]
  | unsupportedParameter => [unsupportedParameter, peerVerification, value, exception]
  | certificateVerification => [certificateVerification, peerVerification, exception]
  | certificateChain => [certificateChain, certificateVerification, peerVerification, exception]
  | certificateExpired =>
    [certificateExpired, certificateVerification, peerVerification, exception]
  | invalidSettings => [invalidSettings, value, exception]

/-- The name of the category, as diagnostics spell it. -/
def name : Category → Text
  | exception => "Exception".toList
  | value => "ValueError".toList
  | type => "TypeError".toList
  | index => "IndexError".toList
  | runtime => "RuntimeError".toList
  | os => "OSError".toList
  | fileNotFound => "FileNotFoundError".toList
  | isDirectory => "IsADirectoryError".toList
  | notDirectory => "NotADirectoryError".toList
  | peerVerification => "PeerVerificationError".toList
  | configuration => "ConfigurationError".toList
  | malformedHint => "MalformedEndpointHintError".toList
  | hostnameMismatch => "HostnameMismatchError".toList
  | chainValidation => "ChainValidationError".toList
  | unsupportedParameter => "UnsupportedHandshakeParameterError".toList
  | certificateVerification => "CertificateVerificationError".toList
  | certificateChain => "CertificateChainError".toList
  | certificateExpired => "CertificateExpiredError".toList
  | invalidSettings => "ValidationError".toList

end Category

/-- What is wrong with a setting. -/
inductive SettingFault where
  /-- The value is refused, with this explanation. -/
  | refused (explanation : Text)
  /-- Settings do not change once they are made. -/
  | frozen
deriving DecidableEq

/-- What is said about a setting. -/
def SettingFault.message : SettingFault → Text
  | refused explanation => "Value error, ".toList ++ explanation
  | frozen => "Instance is frozen".toList

/-- An error as a caller sees it.  Callers can make errors themselves, so the facts in an error are
values of any type. -/
inductive Report where
  /-- The hint to the endpoint cannot be read. -/
  | malformedHint (hint reason : Value)
  /-- The certificate does not name the host. -/
  | hostnameMismatch (host mode detail : Value)
  /-- The chain of a host was not verified. -/
  | chainValidation (host : Value) (cause : Option Report)
  /-- A handshake parameter is not supported with these values. -/
  | unsupportedParameter (parameter : Value) (values : List Text) (reason : Value)
  /-- A file of trust anchors cannot be loaded; the cause says this about itself. -/
  | unreadableStore (path : Text) (cause : Category) (detail : Text)
  /-- Settings are refused, each fault with the name of its field. -/
  | invalidSettings (faults : List (Text × SettingFault))
  /-- Any other error; one from a parser says nothing about itself. -/
  | plain (category : Category) (message : Option Text)

namespace Report

/-- The category of the error. -/
def category : Report → Category
  | malformedHint .. => .malformedHint
  | hostnameMismatch .. => .hostnameMismatch
  | chainValidation .. => .chainValidation
  | unsupportedParameter .. => .unsupportedParameter
  | unreadableStore .. => .configuration
  | invalidSettings .. => .invalidSettings
  | plain category _ => category

/-- Words with a remark in parentheses, unless the remark says nothing. -/
def withRemark (words : Text) (remark : Value) : Text :=
  if remark.vacuous then words else words ++ ' ' :: '(' :: remark.display ++ [')']

/-- What is said about the error, if anything. -/
def message? : Report → Option Text
  | malformedHint hint reason =>
    withRemark ("Invalid endpointURI: ".toList ++ hint.display) reason
  | hostnameMismatch host _ detail =>
    withRemark ("Host name verification failed for host : ".toList ++ host.display) detail
  | chainValidation host _ =>
    some ("Certificate Chain Validation failed for host : ".toList ++ host.display)
  | unsupportedParameter parameter values reason =>
    withRemark
      ("Unsupported ".toList ++ parameter.display ++ ':' :: ' ' :: [',', ' '].intercalate values)
      reason
  | unreadableStore path _ detail =>
    some ("Cannot load trust store ".toList ++ path ++ ": ".toList ++ detail)
  | invalidSettings _ => none
  | plain _ message => message

end Report

/-- A value that is no identifier of a mode is an unsuitable value. -/
def Mode.UnknownIdentifier.report (e : Mode.UnknownIdentifier) : Report :=
  .plain .value e.message

/-- A setting that spells no mode is a fault of the configuration. -/
def Mode.UnknownSetting.report (e : Mode.UnknownSetting) : Report :=
  .plain .configuration e.message

/-- A single value in the place of a sequence has the wrong type. -/
def Value.NotIterable.report (e : Value.NotIterable) : Report := .plain .type e.message

end PeerTrust

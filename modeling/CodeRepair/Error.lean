/-!
Why a request is refused. What goes wrong inside an attempt is no error: it is recorded with the attempt.
-/
namespace CodeRepair

/-- A request refused before anything runs. -/
inductive RequestError
  | unsupportedLanguage (name : String)
  | emptyCode
  | codeTooLong (length max : Nat)
  | invalidMaxAttempts (got max : Nat)
  | unsafeCode (reason : String)
  deriving DecidableEq, Repr, Inhabited

def RequestError.message : RequestError → String
  | unsupportedLanguage name => "unsupported language '" ++ name ++ "'"
  | emptyCode => "code cannot be empty"
  | codeTooLong length max =>
    "code is " ++ toString length ++ " characters long, the maximum is " ++ toString max
  | invalidMaxAttempts got max =>
    "max_attempts must be between 1 and " ++ toString max ++ ", got " ++ toString got
  | unsafeCode reason => "unsafe code detected: " ++ reason

inductive KeyError
  | empty
  | tooLong
  | badCharacters
  deriving DecidableEq, Repr, Inhabited

def KeyError.message : KeyError → String
  | empty => "session id cannot be empty"
  | tooLong => "session id too long"
  | badCharacters => "session id contains invalid characters"

/-- A request refused by the sessions as they stand. -/
inductive SessionError
  | notFound (id : String)
  | alreadyComplete (id : String)
  | cancelled (id : String)
  | capacityReached (max : Nat)
  | invalidId (reason : KeyError)
  | request (error : RequestError)
  deriving DecidableEq, Repr, Inhabited

def SessionError.message : SessionError → String
  | notFound id => "session not found: " ++ id
  | alreadyComplete id => "session " ++ id ++ " is already complete"
  | cancelled id => "session " ++ id ++ " was cancelled"
  | capacityReached max => "maximum number of sessions reached (" ++ toString max ++ ")"
  | invalidId reason => "invalid session id: " ++ reason.message
  | request error => error.message

end CodeRepair

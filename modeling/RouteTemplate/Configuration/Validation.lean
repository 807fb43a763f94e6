import RouteTemplate.Configuration.Setting
import RouteTemplate.Table

set_option autoImplicit false

namespace RouteTemplate

/-- What is wrong with an entry: its value cannot be read as a truth value, is of no kind that could be, its key is
no setting, or its value or its key is no text for want of what a surrogate stands for. -/
inductive IssueKind where
  | unreadable
  | wrongKind
  | unknown
  | brokenValue
  | brokenKey
deriving Repr, DecidableEq

structure Issue where
  key : Text
  kind : IssueKind
deriving Repr, DecidableEq

def documentTrueWords : List Text := ["1", "t", "y", "on", "yes", "true"]

def documentFalseWords : List Text := ["0", "f", "n", "no", "off", "false"]

/-- Reads a number as a truth value; it has to fit into 64 bits. -/
def readTruthNumber (n : Int) : Except IssueKind Bool :=
  if n = 1 then .ok true
  else if n = 0 then .ok false
  else if -(2 ^ 63) ≤ n && n < 2 ^ 63 then .error .unreadable
  else .error .wrongKind

/-- The integer equal to a binary number strictly between the ends of the 64-bit range, if there is one. -/
def wordOf? (x : Binary64) : Option Int :=
  match x.toRat? with
  | none => none
  | some q => if q.den = 1 && -(2 ^ 63) < q.num && q.num < 2 ^ 63 then some q.num else none

def Json.readTruth : Json → Except IssueKind Bool
  | .bool b => .ok b
  | .int n => readTruthNumber n
  | .float x =>
    match wordOf? x with
    | some n => readTruthNumber n
    | none => .error .wrongKind
  | .text t =>
    if t.any CodePoint.isSurrogate then .error .brokenValue
    else if t.asciiLower ∈ documentTrueWords then .ok true
    else if t.asciiLower ∈ documentFalseWords then .ok false
    else .error .unreadable
  | .null | .array _ | .object _ => .error .wrongKind

namespace Settings

def issueOf? (entries : List (Text × Json)) (s : Setting) : Option Issue :=
  match Table.get? s.key entries with
  | none => none
  | some value =>
    match value.readTruth with
    | .ok _ => none
    | .error kind => some ⟨s.key, kind⟩

def unknownKey? (key : Text) : Option Issue :=
  match Setting.ofKey? key with
  | some _ => none
  | none => some ⟨key, if key.any CodePoint.isSurrogate then .brokenKey else .unknown⟩

/-- All that is wrong with entries: the settings in their order, then the unknown keys in theirs. -/
def issues (entries : List (Text × Json)) : List Issue :=
  Setting.all.filterMap (issueOf? entries) ++ (Table.keys entries).filterMap unknownKey?

/-- The value of a setting: as given, otherwise as it is by default. -/
def valueOf (entries : List (Text × Json)) (s : Setting) : Bool :=
  match Table.get? s.key entries with
  | none => ({} : Settings).get s
  | some value => value.readTruth.toOption.getD (({} : Settings).get s)

def ofEntries (entries : List (Text × Json)) : Except (List Issue) Settings :=
  match issues entries with
  | [] => .ok (ofValues (valueOf entries))
  | found => .error found

end Settings

end RouteTemplate

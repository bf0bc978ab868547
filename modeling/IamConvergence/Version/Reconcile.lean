/-
One convergence pass over a versioned document whose history is bounded. Nothing is listed or
changed while the default version already says what is desired. Otherwise the oldest versions that
are not the default are deleted until a new version fits, and the new one is created.
-/
import IamConvergence.Document.Equality
import IamConvergence.Document.Reader
import IamConvergence.Pass
import IamConvergence.Version.Eviction

namespace IamConvergence

/-! ## Requests -/

/-- Requests about the versions of one document. -/
inductive VersionRequest where
  /-- The default version with its content. -/
  | getDefault
  | list
  /-- Creates a version, which becomes the default, and gives its id. -/
  | create (content : String)
  | delete (id : String)
  deriving DecidableEq

/-- What answers a request about versions. -/
@[reducible] def VersionRequest.Answer : VersionRequest → Type
  | .getDefault => DocumentVersion
  | .list => List DocumentVersion
  | .create _ => String
  | .delete _ => Unit

/-- A pass over requests about versions. -/
abbrev VersionPass (α : Type) : Type := Pass VersionRequest VersionRequest.Answer α

/-- What a pass over versions leaves. -/
structure VersionOutcome where
  /-- The default version when the pass ended, if it could be read. -/
  versionId : Option String
  /-- Whether a version was created. -/
  changed : Bool
  /-- The versions deleted to make room, oldest first. -/
  evicted : List String
  fault : Option Fault
  deriving DecidableEq

/-- Whether the pass ran to its end. -/
def VersionOutcome.isConverged (o : VersionOutcome) : Bool := o.fault.isNone

/-- An outcome without a new version. -/
def VersionOutcome.failed (versionId : Option String) (evicted : List String) (f : Fault) :
    VersionOutcome :=
  ⟨versionId, false, evicted, some f⟩

/-! ## Bounds -/

/-- The number of versions that a provider retains. -/
def defaultVersionBound : Nat := 5

/-- The least usable bound: the default version is never evicted, so below it nothing fits. -/
def leastVersionBound : Nat := 2

/-- Refuses a bound that leaves no room beside the default version. -/
def checkVersionBound (bound : Nat) : Except Fault Unit :=
  if bound < leastVersionBound then
    .error (.invalidField "settings" "maxPolicyVersions"
      s!"maxPolicyVersions must be at least {leastVersionBound}")
  else .ok ()

/-! ## The pass -/

/-- Whether two texts are documents with equal values. -/
def documentsEqual (a b : String) : Bool :=
  match Document.parse? a, Document.parse? b with
  | some x, some y => x.equal y
  | _, _ => false

namespace Version

/-- The fault of a history in which nothing can be evicted. -/
def crowded (parent : String) (retained bound : Nat) : Fault :=
  .invalidField parent "maxPolicyVersions"
    s!"{retained} versions retained and none can be evicted under a bound of {bound}"

/-- The versions that do not have an id. -/
def without (id : String) (history : List DocumentVersion) : List DocumentVersion :=
  history.filter (·.id != id)

theorem length_without_lt {v : DocumentVersion} {history : List DocumentVersion}
    (h : v ∈ history) : (without v.id history).length < history.length :=
  List.length_filter_lt_length_iff_exists.mpr ⟨v, h, by simp⟩

/-- Creates the desired version. -/
def create (parent desired current : String) (evicted : List String) :
    VersionPass VersionOutcome :=
  .ask parent (.create desired) fun
    | .ok id => .done ⟨some id, true, evicted, none⟩
    | .error f => .done (.failed (some current) evicted f)

/-- Deletes versions until a new one fits, then creates it. A version that is already gone counts as
deleted. -/
def evict (parent desired current : String) (bound : Nat) (history : List DocumentVersion)
    (evicted : List String) : VersionPass VersionOutcome :=
  if history.length < bound then create parent desired current evicted
  else
    match _h : evictionCandidate? history bound with
    | none => .done (.failed (some current) evicted (crowded parent history.length bound))
    | some v =>
      .ask parent (.delete v.id) fun answer =>
        match removalFault? answer with
        | none => evict parent desired current bound (without v.id history) (evicted ++ [v.id])
        | some f => .done (.failed (some current) evicted f)
termination_by history.length
decreasing_by exact length_without_lt (mem_of_evictionCandidate? _h).1

/-- Brings the default version of a document to the desired content. -/
def reconcile (parent desired : String) (bound : Nat) : VersionPass VersionOutcome :=
  .ask parent .getDefault fun
    | .error f => .done (.failed none [] f)
    | .ok current =>
      if documentsEqual (current.content.getD "") desired then
        .done ⟨some current.id, false, [], none⟩
      else
        .ask parent .list fun
          | .error f => .done (.failed (some current.id) [] f)
          | .ok history => evict parent desired current.id bound history []

end Version

end IamConvergence

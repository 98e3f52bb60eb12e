import RuleSearch.Records
import RuleSearch.Request

/-!
Sessions: computations that talk to a cluster and a record store. Everything that leaves the
program is an event, and a session keeps the history of its events also when it fails. The cluster
may answer differently each time, so its answers depend on the history. A callback, which answers a
search in place of its rules, is a program over the requests it may make: it sees the answer to each
of them, failures included, and ends with an answer of its own.
-/
namespace RuleSearch

/-- What a single run of a search asks for beside the hits. -/
structure Options where
  highlight : Bool
  explain : Bool
  profile : Bool
deriving DecidableEq

namespace Options

def standard : Options := ⟨true, false, false⟩

def explaining : Options := { standard with explain := true }

def profiling : Options := { standard with profile := true }

def counting : Options := { standard with highlight := false }

end Options

inductive Event where
  | searched (request : Request)
  | counted (request : Request)
  | consulted (query : String) (options : Options)
  | fetched (ids : List String) (columns : Columns) (withDeleted : Bool)
deriving DecidableEq

abbrev History := List Event

structure Cluster where
  search : History → Request → Except SearchError Json
  count : History → Request → Except SearchError Json

def Session (α : Type) := History → Except SearchError α × History

namespace Session

variable {α β : Type}

def run (x : Session α) (history : History) : Except SearchError α × History := x history

instance : Monad Session where
  pure a := fun history => (.ok a, history)
  bind x f := fun history =>
    match x history with
    | (.ok a, later) => f a later
    | (.error e, later) => (.error e, later)

def ofExcept (result : Except SearchError α) : Session α := fun history => (result, history)

/-- Records the event and takes the answer to it. -/
def exchange (event : Event) (answer : History → Except SearchError α) : Session α :=
  fun history => (answer history, history ++ [event])

@[simp] theorem run_pure (a : α) (history : History) :
    (pure a : Session α).run history = (.ok a, history) := rfl

@[simp] theorem run_ofExcept (result : Except SearchError α) (history : History) :
    (ofExcept result).run history = (result, history) := rfl

@[simp] theorem run_exchange (event : Event) (answer : History → Except SearchError α)
    (history : History) :
    (exchange event answer).run history = (answer history, history ++ [event]) := rfl

theorem run_bind (x : Session α) (f : α → Session β) (history : History) :
    (x >>= f).run history =
      match x.run history with
      | (.ok a, later) => (f a).run later
      | (.error e, later) => (.error e, later) := rfl

instance : LawfulMonad Session := LawfulMonad.mk' Session
  (fun x => by
    funext history
    rcases e : x history with ⟨_ | _, _⟩ <;> simp [Functor.map, Function.comp, e])
  (fun _ _ => rfl)
  (fun x f g => by
    funext history
    rcases e : x history with ⟨_ | _, _⟩ <;> simp [bind, e])

end Session

namespace Cluster

def sendSearch (c : Cluster) (r : Request) : Session Json :=
  Session.exchange (.searched r) fun history => c.search history r

def sendCount (c : Cluster) (r : Request) : Session Json :=
  Session.exchange (.counted r) fun history => c.count history r

def isSearched : Event → Bool
  | .searched _ => true
  | _ => false

def isCounted : Event → Bool
  | .counted _ => true
  | _ => false

/-- A cluster that answers each kind of request from a list, in order, and then always the same. -/
def scripted (searches counts : List (Except SearchError Json)) (lastSearch lastCount : Json) :
    Cluster where
  search history _ := (searches[history.countP isSearched]?).getD (.ok lastSearch)
  count history _ := (counts[history.countP isCounted]?).getD (.ok lastCount)

end Cluster

/-! ### Callbacks -/

inductive Program where
  | answer (result : Except SearchError Json)
  | search (request : Request) (next : Except SearchError Json → Program)
  | count (request : Request) (next : Except SearchError Json → Program)

def Program.run (c : Cluster) : Program → Session Json
  | answer result => Session.ofExcept result
  | search request next => fun history =>
    (next (c.search history request)).run c (history ++ [.searched request])
  | count request next => fun history =>
    (next (c.count history request)).run c (history ++ [.counted request])

abbrev Callback := String → Options → Program

def Callback.consult (callback : Callback) (c : Cluster) (query : String) (options : Options) :
    Session Json := do
  Session.exchange (.consulted query options) fun _ => .ok ()
  (callback query options).run c

end RuleSearch

import DiscoveryClient.Properties.Layered

/-!
# Steps on sources of properties

Look-ups, changes and events that come one after another at a source, at one
layer of a stack or at the stack as a whole.  A step that its source does not
have fails and leaves everything as it was.
-/

namespace DiscoveryClient

open Log

inductive SourceStep where
  | get (key default : Value)
  | set (key value : Value)
  | remove (key : Value)
  | update (entries : Value)
  | clear
  | dump
  /-- Set a key in a copy of all that the source holds. -/
  | changeCopy (key : Value)
  | reload
  | paths
  /-- A change that the file system reports, if it can be reported at all. -/
  | event (change : Except Failure FileSource.Change)
  | watch (interval : Value)
  | close
  | unknown (operation : Value)

structure SourceReply where
  answer : Except Failure Value
  count : Option Count := none

namespace SourceStep

def refusal : SourceStep → Failure
  | .unknown operation => .unknownOperation operation
  | _ => .noSuchOperation

def found (default : Value) (value : Except Failure (Option Value)) : SourceReply :=
  { answer := value.map fun value => value.getD default }

end SourceStep

namespace PropertyStore

/-- The store behind a change that may be refused. -/
def change (store : PropertyStore) : Except Failure PropertyStore → PropertyStore × SourceReply
  | .ok changed => (changed, { answer := .ok .null })
  | .error failure => (store, { answer := .error failure })

def step (store : PropertyStore) : SourceStep → PropertyStore × SourceReply
  | .get key default => (store, SourceStep.found default (store.look key))
  | .set key value => store.change (store.set key value)
  | .remove key => store.change (store.remove key)
  | .update entries => store.change (store.update entries)
  | .clear => store.change (.ok .empty)
  | .dump => (store, { answer := .ok (.dict store.entries) })
  | .changeCopy key => (store, { answer := withKey key (.dict store.entries) })
  | other => (store, { answer := .error other.refusal })

end PropertyStore

namespace FileSource

def step (tree : FileTree) (source : FileSource) : SourceStep → Logged (FileSource × SourceReply)
  | .get key default =>
      pure (source, SourceStep.found default ((Layer.files source).look key))
  | .dump => pure (source, { answer := .ok (.dict source.served.entries) })
  | .reload => do
      let (source, outcome) ← source.reload tree
      pure (source, { answer := outcome.map Value.bool })
  | .paths =>
      pure (source, { answer := .ok (.texts [source.basePath.text, source.environmentPath.text]) })
  | .event (.error failure) => pure (source, { answer := .error failure })
  | .event (.ok change) => do
      let (source, outcome) ← source.onChange tree change
      pure (source, {
        answer := outcome.map fun _ => .dict source.served.entries
        count := outcome.toOption.join.map Count.property })
  | .watch interval => do
      let (source, outcome) ← source.watch tree interval
      pure (source, { answer := outcome.map fun () => .bool source.isWatched })
  | .close => pure (source.close, { answer := .ok (.bool false) })
  | other => pure (source, { answer := .error other.refusal })

end FileSource

namespace Layer

def step (tree : FileTree) (step : SourceStep) : Layer → Logged (Layer × SourceReply)
  | .memory store =>
      let (store, reply) := store.step step
      pure (.memory store, reply)
  | .files source => do
      let (source, reply) ← source.step tree step
      pure (.files source, reply)

end Layer

namespace Layered

/-- A step on a stack as a whole, which can be looked into and closed. -/
def step (layers : Layered) : SourceStep → Layered × SourceReply
  | .get key default => (layers, SourceStep.found default (layers.look key))
  | .close =>
      let layers := layers.close
      (layers, { answer := .ok (.bool (layers.any Layer.isWatched)) })
  | other => (layers, { answer := .error other.refusal })

def noSuchLayer : Failure :=
  .foreign "IndexError" (.text "list index out of range")

/-- Where the layer of a number is; numbers below zero count from the end. -/
def place? (layers : Layered) (number : Int) : Option Nat :=
  let place := if number < 0 then number + layers.length else number
  if 0 ≤ place ∧ place < layers.length then some place.toNat else none

def stepAt (tree : FileTree) (layers : Layered) (number : Int) (step : SourceStep) :
    Logged (Layered × SourceReply) :=
  match (layers.place? number).bind fun place => layers[place]?.map (place, ·) with
  | none => pure (layers, { answer := .error noSuchLayer })
  | some (place, layer) => do
      let (layer, reply) ← layer.step tree step
      pure (layers.set place layer, reply)

end Layered

end DiscoveryClient

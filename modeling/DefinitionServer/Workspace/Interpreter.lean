import DefinitionServer.Log.Record
import DefinitionServer.Workspace.Basic

/-!
# Interpreters

What the server asks of the interpreter it stands in front of, whatever that keeps as its state.
Any question may be answered with a fault of the interpreter itself, which is not a diagnostic of
the definition. The workspace is the interpreter that the server runs with.
-/
namespace DefinitionServer

/-- An interpreter with state `σ`. Every question may change the state. -/
structure Interpreter (σ : Type) where
  /-- Defines a function from an array of rows. -/
  define : Value → σ → Except Fault Token × σ
  /-- The names of the defined functions. -/
  names : σ → Except Fault (List Text) × σ
  /-- The source of a function, when there is one. -/
  source : Text → σ → Except Fault (Option Value) × σ
  /-- What the interpreter says in the log about a definition. -/
  remarks : Value → σ → List Log.Record := fun _ _ => []

namespace Workspace

/-- The part of the server that speaks of definitions. -/
def logTarget : Text := "glyph-eval::workspace".toList

/-- A definition is remarked on with its diagnostic, or with the name and whether that was
defined before. -/
def remarks (v : Value) (w : Workspace) : List Log.Record :=
  match Definition.ofValue v with
  | .ok (.ok d) =>
    [⟨.debug, logTarget, "function defined".toList,
      [("name".toList, .text d.header.name),
        ("replaced".toList, .flag (w.find? d.header.name).isSome)]⟩]
  | .ok (.error e) =>
    [⟨.debug, logTarget, "definition rejected".toList,
      [("diagnostic".toList, .text e.message), ("rows".toList, .count v.count)]⟩]
  | .error _ => []

/-- The workspace as an interpreter. Only definitions change it. -/
def interpreter : Interpreter Workspace where
  define v w := w.define v
  names w := (.ok w.names, w)
  source name w := (.ok (w.source? name), w)
  remarks := remarks

end Workspace
end DefinitionServer

import GraphDraft.Prompt.Key
import GraphDraft.Store

/-!
# Keymaps

What keys do. A bound key causes an action; other characters are typed, and the editing keys edit
the line.
-/

namespace GraphDraft

/-- What a key can be bound to. -/
inductive Action where
  | confirm
  | cancel
  | quit
  /-- Build the catalog anew. -/
  | rebuild
  | selectAll
  /-- Chain the selected nodes. -/
  | connectSelection
deriving DecidableEq, Repr

/-- The names of the actions in bindings. -/
def Action.names : List (String × Action) :=
  [("confirm", .confirm), ("cancel", .cancel), ("quit", .quit), ("rebuild", .rebuild),
   ("select-all", .selectAll), ("connect-selection", .connectSelection)]

def Action.ofText? (s : String) : Option Action :=
  Action.names.lookup s

/-- Why a binding is not used. -/
inductive BindingError where
  | unknownKey (name : String)
  | unknownAction (name : String)
deriving DecidableEq, Repr

def BindingError.message : BindingError → String
  | unknownKey name => "Unknown key: " ++ name
  | unknownAction name => "Unknown action: " ++ name

/-- What a key press means at the prompt. -/
inductive Gesture where
  | act (a : Action)
  | edit (k : Key)
  | insert (c : Char)
  | ignore
deriving DecidableEq, Repr

/-- Actions by key. -/
structure Keymap where
  bindings : Store Key Action := {}

namespace Keymap

/-- Reads a binding. An unknown key is reported before an unknown action. -/
def read (key action : String) : Except BindingError (Key × Action) :=
  match Key.ofText? key, Action.ofText? action with
  | none, _ => .error (.unknownKey key)
  | some _, none => .error (.unknownAction action)
  | some k, some a => .ok (k, a)

def bind (m : Keymap) (k : Key) (a : Action) : Keymap :=
  ⟨m.bindings.put k a⟩

/-- The keymap of named bindings. Of two names for one key, the binding given later counts. -/
def ofBindings (bs : Store String String) : Keymap :=
  bs.entries.foldl (fun m b =>
    match read b.1 b.2 with
    | .ok (k, a) => m.bind k a
    | .error _ => m) {}

/-- What is wrong with the bindings that are not used, in alphabetical order. -/
def rejected (bs : Store String String) : List String :=
  (bs.entries.filterMap fun b =>
    match read b.1 b.2 with
    | .ok _ => none
    | .error e => some e.message).mergeSort fun a b => decide (a ≤ b)

/-- What a key press means. -/
def gesture (m : Keymap) (p : KeyPress) : Gesture :=
  match m.bindings.get? p.key.folded with
  | some a => .act a
  | none =>
    match p.key.folded with
    | .char c => if p.ctrl || p.alt then .ignore else .insert c
    | .backspace => .edit .backspace
    | .delete => .edit .delete
    | .left => .edit .left
    | .right => .edit .right
    | .home => .edit .home
    | .end => .edit .end
    | _ => .ignore

end Keymap

end GraphDraft

import Scaffold.Diff.Script

/-!
Tidying of scripts. Stretches of one kind that meet become one, and an insertion slides over lines that
it repeats: first up and then down as far as it goes.
-/

namespace Scaffold.Diff

namespace Edit

def isEmpty : Edit → Bool
  | keep _ _ length => length = 0
  | delete _ length _ => length = 0
  | insert _ _ length => length = 0

end Edit

/-- A script opened at one of its stretches; those before it are listed backwards. -/
structure Cursor where
  before : List Edit
  current : Edit
  after : List Edit

namespace Cursor

def toScript (cursor : Cursor) : List Edit :=
  cursor.before.reverse ++ cursor.current :: cursor.after

end Cursor

variable {α : Type} [BEq α]

/-- The lines that the stretch behind a sliding one gains. -/
def growStart (old new length : Nat) : List Edit → List Edit
  | .keep o n l :: rest => .keep (o - length) (n - length) (l + length) :: rest
  | after => .keep old new length :: after

/-- The lines that the stretch before a sliding one gains. -/
def growEnd (old new length : Nat) : List Edit → List Edit
  | .keep o n l :: rest => .keep o n (l + length) :: rest
  | before => .keep old new length :: before

def pushUnlessEmpty (edit : Edit) (edits : List Edit) : List Edit :=
  if edit.isEmpty then edits else edit :: edits

/-- Slides a stretch towards the start. -/
def slideUp (old new : Array α) : (fuel : Nat) → Cursor → Cursor
  | 0, cursor => cursor
  | fuel + 1, ⟨before, current, after⟩ =>
    match current, before with
    | .insert o n length, .keep ko kn kept :: rest =>
      let shared := commonSuffix old new (ko + kept) (n + length) (min kept length)
      if shared > 0 then
        slideUp old new fuel
          ⟨pushUnlessEmpty (.keep ko kn (kept - shared)) rest,
            .insert (o - shared) (n - shared) length,
            growStart (ko + kept - shared) (n + length - shared) shared after⟩
      else ⟨before, current, after⟩
    | .insert _ _ _, .delete o length n :: rest =>
      slideUp old new fuel ⟨rest, current, .delete o length n :: after⟩
    | .delete _ _ _, .insert o n length :: rest =>
      slideUp old new fuel ⟨rest, current, .insert o n length :: after⟩
    | .insert _ _ more, .insert o n length :: rest =>
      slideUp old new fuel ⟨rest, .insert o n (length + more), after⟩
    | .delete _ more _, .delete o length n :: rest =>
      slideUp old new fuel ⟨rest, .delete o (length + more) n, after⟩
    | _, _ => ⟨before, current, after⟩

/-- Slides a stretch towards the end. -/
def slideDown (old new : Array α) : (fuel : Nat) → Cursor → Cursor
  | 0, cursor => cursor
  | fuel + 1, ⟨before, current, after⟩ =>
    match current, after with
    | .insert o n length, .keep ko kn kept :: rest =>
      let shared := commonPrefix old new ko n (min kept length)
      if shared > 0 then
        slideDown old new fuel
          ⟨growEnd ko n shared before,
            .insert (o + shared) (n + shared) length,
            pushUnlessEmpty (.keep (ko + shared) (kn + shared) (kept - shared)) rest⟩
      else ⟨before, current, after⟩
    | .insert _ _ _, .delete o length n :: rest =>
      slideDown old new fuel ⟨.delete o length n :: before, current, rest⟩
    | .delete _ _ _, .insert o n length :: rest =>
      slideDown old new fuel ⟨.insert o n length :: before, current, rest⟩
    | .insert o n length, .insert _ _ more :: rest =>
      slideDown old new fuel ⟨before, .insert o n (length + more), rest⟩
    | .delete o length n, .delete _ more _ :: rest =>
      slideDown old new fuel ⟨before, .delete o (length + more) n, rest⟩
    | _, _ => ⟨before, current, after⟩

/-- Slides all stretches of a kind, from the first to the last. -/
def slideAll (old new : Array α) (slides : Edit → Bool) (slideFuel : Nat) :
    (fuel : Nat) → (before rest : List Edit) → List Edit
  | 0, before, rest => before.reverse ++ rest
  | _, before, [] => before.reverse
  | fuel + 1, before, edit :: rest =>
    if slides edit then
      let cursor := slideDown old new slideFuel (slideUp old new slideFuel ⟨before, edit, rest⟩)
      slideAll old new slides slideFuel fuel (cursor.current :: cursor.before) cursor.after
    else slideAll old new slides slideFuel fuel (edit :: before) rest

def isDelete : Edit → Bool
  | .delete _ _ _ => true
  | _ => false

def isInsert : Edit → Bool
  | .insert _ _ _ => true
  | _ => false

/-- A script with its deletions and then its insertions slid into place. -/
def tidy (old new : Array α) (script : List Edit) : List Edit :=
  let fuel := old.size + new.size + script.length + 1
  let script := slideAll old new isDelete fuel fuel [] script
  slideAll old new isInsert fuel fuel [] script

end Scaffold.Diff

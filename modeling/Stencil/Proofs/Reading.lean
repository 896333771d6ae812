import Stencil.Error
import Stencil.Reading

namespace Stencil

theorem ok_bind {ε α β : Type} {a : α} {f : α → Except ε β} : (Except.ok a >>= f) = f a := rfl

theorem bind_eq_ok {ε α β : Type} {x : Except ε α} {f : α → Except ε β} {b : β} :
    (x >>= f) = .ok b ↔ ∃ a, x = .ok a ∧ f a = .ok b := by
  cases x with
  | error e => exact ⟨nofun, nofun⟩
  | ok a => exact ⟨fun h => ⟨a, rfl, h⟩, fun ⟨_, same, h⟩ => by cases same; exact h⟩

def Ensures {ε α : Type} (good : α → Prop) (bad : ε → Prop) : Except ε α → Prop
  | .ok a => good a
  | .error e => bad e

theorem Ensures.bind {ε α β : Type} {good : α → Prop} {also : β → Prop} {bad : ε → Prop}
    {x : Except ε α} {f : α → Except ε β} (h : Ensures good bad x)
    (then_ : ∀ a, good a → Ensures also bad (f a)) : Ensures also bad (x >>= f) := by
  cases x with
  | error e => exact h
  | ok a => exact then_ a h

theorem Ensures.map {ε α β : Type} {good : β → Prop} {bad : ε → Prop} {x : Except ε α} {f : α → β}
    (h : Ensures (fun a => good (f a)) bad x) : Ensures good bad (x.map f) := by
  cases x <;> exact h

theorem Ensures.mono {ε α : Type} {good also : α → Prop} {bad worse : ε → Prop} {x : Except ε α}
    (h : Ensures good bad x) (left : ∀ a, good a → also a) (right : ∀ e, bad e → worse e) :
    Ensures also worse x := by
  cases x with
  | error e => exact right e h
  | ok a => exact left a h

theorem toOption_eq_some {ε α : Type} {x : Except ε α} {a : α} :
    x.toOption = some a ↔ x = .ok a := by
  cases x with
  | error e => exact ⟨nofun, nofun⟩
  | ok b => exact ⟨fun h => by cases h; rfl, fun h => by cases h; rfl⟩

variable {α β γ δ : Type} {xs rest last : List β} {ys after : List δ} {a : α} {c : γ}

/-- The reader takes something from `xs`, which is the value, and leaves the rest. -/
def Reads (result : Except Error (Read α xs)) (value : α) (rest : List β) : Prop :=
  ∃ shorter, result = .ok ⟨value, rest, shorter⟩

/-- The reader finds the value at the front of `xs`, perhaps without taking anything. -/
def Continues (result : Except Error (Continued α xs)) (value : α) (rest : List β) : Prop :=
  ∃ bounded, result = .ok ⟨value, rest, bounded⟩

theorem Reads.shorter {result : Except Error (Read α xs)} (h : Reads result a rest) :
    rest.length < xs.length :=
  h.1

theorem Continues.bounded {result : Except Error (Continued α xs)} (h : Continues result a rest) :
    rest.length ≤ xs.length :=
  h.1

@[simp] theorem reads_ok {value : α} {shorter : rest.length < xs.length} :
    Reads (.ok ⟨value, rest, shorter⟩) a last ↔ a = value ∧ last = rest := by
  constructor
  · rintro ⟨_, same⟩
    cases same
    exact ⟨rfl, rfl⟩
  · rintro ⟨rfl, rfl⟩
    exact ⟨shorter, rfl⟩

@[simp] theorem reads_pure {value : α} {shorter : rest.length < xs.length} :
    Reads (pure ⟨value, rest, shorter⟩) a last ↔ a = value ∧ last = rest :=
  reads_ok

@[simp] theorem not_reads_error {e : Error} :
    ¬Reads (.error e : Except Error (Read α xs)) a rest := by
  rintro ⟨_, same⟩
  cases same

@[simp] theorem continues_ok {value : α} {bounded : rest.length ≤ xs.length} :
    Continues (.ok ⟨value, rest, bounded⟩) a last ↔ a = value ∧ last = rest := by
  constructor
  · rintro ⟨_, same⟩
    cases same
    exact ⟨rfl, rfl⟩
  · rintro ⟨rfl, rfl⟩
    exact ⟨bounded, rfl⟩

@[simp] theorem continues_pure {value : α} {bounded : rest.length ≤ xs.length} :
    Continues (pure ⟨value, rest, bounded⟩) a last ↔ a = value ∧ last = rest :=
  continues_ok

theorem reads_bind {x : Except Error (Read α xs)} {f : Read α xs → Except Error (Read γ ys)} :
    Reads (x >>= f) c after ↔
      ∃ a rest, ∃ h : Reads x a rest, Reads (f ⟨a, rest, h.shorter⟩) c after := by
  unfold Reads
  simp only [bind_eq_ok]
  constructor
  · rintro ⟨shorter, ⟨a, rest, fewer⟩, one, two⟩
    exact ⟨a, rest, ⟨fewer, one⟩, shorter, two⟩
  · rintro ⟨a, rest, ⟨fewer, one⟩, shorter, two⟩
    exact ⟨shorter, _, one, two⟩

theorem reads_bind_continued {x : Except Error (Continued α xs)}
    {f : Continued α xs → Except Error (Read γ ys)} :
    Reads (x >>= f) c after ↔
      ∃ a rest, ∃ h : Continues x a rest, Reads (f ⟨a, rest, h.bounded⟩) c after := by
  unfold Reads Continues
  simp only [bind_eq_ok]
  constructor
  · rintro ⟨shorter, ⟨a, rest, fewer⟩, one, two⟩
    exact ⟨a, rest, ⟨fewer, one⟩, shorter, two⟩
  · rintro ⟨a, rest, ⟨fewer, one⟩, shorter, two⟩
    exact ⟨shorter, _, one, two⟩

theorem continues_bind {x : Except Error (Read α xs)}
    {f : Read α xs → Except Error (Continued γ ys)} :
    Continues (x >>= f) c after ↔
      ∃ a rest, ∃ h : Reads x a rest, Continues (f ⟨a, rest, h.shorter⟩) c after := by
  unfold Reads Continues
  simp only [bind_eq_ok]
  constructor
  · rintro ⟨bounded, ⟨a, rest, fewer⟩, one, two⟩
    exact ⟨a, rest, ⟨fewer, one⟩, bounded, two⟩
  · rintro ⟨a, rest, ⟨fewer, one⟩, bounded, two⟩
    exact ⟨bounded, _, one, two⟩

theorem continues_bind_continued {x : Except Error (Continued α xs)}
    {f : Continued α xs → Except Error (Continued γ ys)} :
    Continues (x >>= f) c after ↔
      ∃ a rest, ∃ h : Continues x a rest, Continues (f ⟨a, rest, h.bounded⟩) c after := by
  unfold Continues
  simp only [bind_eq_ok]
  constructor
  · rintro ⟨bounded, ⟨a, rest, fewer⟩, one, two⟩
    exact ⟨a, rest, ⟨fewer, one⟩, bounded, two⟩
  · rintro ⟨a, rest, ⟨fewer, one⟩, bounded, two⟩
    exact ⟨bounded, _, one, two⟩

theorem bind_read_eq_ok {x : Except Error (Read α xs)} {f : Read α xs → Except Error γ} :
    (x >>= f) = .ok c ↔ ∃ a rest, ∃ h : Reads x a rest, f ⟨a, rest, h.shorter⟩ = .ok c := by
  unfold Reads
  rw [bind_eq_ok]
  constructor
  · rintro ⟨⟨a, rest, fewer⟩, one, two⟩
    exact ⟨a, rest, ⟨fewer, one⟩, two⟩
  · rintro ⟨a, rest, ⟨fewer, one⟩, two⟩
    exact ⟨_, one, two⟩

theorem bind_continued_eq_ok {x : Except Error (Continued α xs)}
    {f : Continued α xs → Except Error γ} :
    (x >>= f) = .ok c ↔ ∃ a rest, ∃ h : Continues x a rest, f ⟨a, rest, h.bounded⟩ = .ok c := by
  unfold Continues
  rw [bind_eq_ok]
  constructor
  · rintro ⟨⟨a, rest, fewer⟩, one, two⟩
    exact ⟨a, rest, ⟨fewer, one⟩, two⟩
  · rintro ⟨a, rest, ⟨fewer, one⟩, two⟩
    exact ⟨_, one, two⟩

end Stencil

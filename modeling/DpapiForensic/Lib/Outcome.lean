import Mathlib.Tactic.Ring

/-!
# What a call of the program ends in

A call returns a value, returns a typed error, or panics. The three are kept apart, because a panic
is not an error the caller can handle: an index out of range, a slice out of range, or an addition
past the word size in a build with overflow checks.

Cursors and lengths are natural numbers, and every addition the code writes with a bare `+` goes
through `usizeAdd`. Whether a sum past `2 ^ 64` panics or wraps is the build profile's choice.
-/

namespace DpapiForensic

/-- The end of a call: a value, a typed error, or a panic. -/
inductive Outcome (ε α : Type) where
  | ok (value : α)
  | err (error : ε)
  | panic
  deriving DecidableEq, Repr

namespace Outcome

variable {ε ε' α β : Type}

/-- Sequencing, with `?` on errors; a panic ends the run. -/
protected def bind : Outcome ε α → (α → Outcome ε β) → Outcome ε β
  | .ok a, f => f a
  | .err e, _ => .err e
  | .panic, _ => .panic

instance : Monad (Outcome ε) where
  pure := .ok
  bind := Outcome.bind

@[simp] theorem pure_eq (a : α) : (pure a : Outcome ε α) = .ok a := rfl

@[simp] theorem ok_bind (a : α) (f : α → Outcome ε β) : (Outcome.ok a >>= f) = f a := rfl

@[simp] theorem err_bind (e : ε) (f : α → Outcome ε β) : (Outcome.err e >>= f) = .err e := rfl

@[simp] theorem panic_bind (f : α → Outcome ε β) :
    ((Outcome.panic : Outcome ε α) >>= f) = .panic := rfl

instance : LawfulMonad (Outcome ε) := LawfulMonad.mk' _
  (by rintro α (_ | _ | _) <;> rfl)
  (by intros; rfl)
  (by rintro α β γ (_ | _ | _) f g <;> rfl)

theorem bind_eq_ok_iff {x : Outcome ε α} {f : α → Outcome ε β} {b : β} :
    (x >>= f) = .ok b ↔ ∃ a, x = .ok a ∧ f a = .ok b := by
  cases x <;> simp

theorem bind_eq_err_iff {x : Outcome ε α} {f : α → Outcome ε β} {e : ε} :
    (x >>= f) = .err e ↔ x = .err e ∨ ∃ a, x = .ok a ∧ f a = .err e := by
  cases x <;> simp

theorem bind_of_ok {x : Outcome ε α} {f : α → Outcome ε β} {a : α} {y : Outcome ε β}
    (hx : x = .ok a) (hf : f a = y) : (x >>= f) = y := by
  rw [hx, ok_bind, hf]

theorem bind_congr_of_ok {x y : Outcome ε α} {f g : α → Outcome ε β} (h : x = y)
    (hf : ∀ a, x = .ok a → f a = g a) : (x >>= f) = (y >>= g) := by
  subst h
  cases x with
  | ok a => exact hf a rfl
  | err e => rfl
  | panic => rfl

theorem ok_ne_panic {a : α} : (.ok a : Outcome ε α) ≠ .panic := nofun

theorem err_ne_panic {e : ε} : (.err e : Outcome ε α) ≠ .panic := nofun

theorem err_ne_ok {e : ε} {a : α} : (.err e : Outcome ε α) ≠ .ok a := nofun

theorem ok_ne_err {a : α} {e : ε} : (.ok a : Outcome ε α) ≠ .err e := nofun

theorem panic_ne_ok {a : α} : (.panic : Outcome ε α) ≠ .ok a := nofun

theorem bind_ne_panic {x : Outcome ε α} {f : α → Outcome ε β} (hx : x ≠ .panic)
    (hf : ∀ a, x = .ok a → f a ≠ .panic) : (x >>= f) ≠ .panic := by
  cases x with
  | ok a => exact hf a rfl
  | err e => simp
  | panic => exact absurd rfl hx

theorem exists_err_of_ne {x : Outcome ε α} (hok : ∀ a, x ≠ .ok a) (hpanic : x ≠ .panic) :
    ∃ e, x = .err e := by
  cases x with
  | ok a => exact absurd rfl (hok a)
  | err e => exact ⟨e, rfl⟩
  | panic => exact absurd rfl hpanic

def okOr (o : Option α) (e : ε) : Outcome ε α :=
  match o with
  | some a => .ok a
  | none => .err e

@[simp] theorem okOr_eq_ok_iff {o : Option α} {e : ε} {a : α} : okOr o e = .ok a ↔ o = some a := by
  cases o <;> simp [okOr]

@[simp] theorem okOr_ne_panic {o : Option α} {e : ε} : okOr o e ≠ .panic := by
  cases o <;> simp [okOr]

@[simp] theorem okOr_some (a : α) (e : ε) : okOr (some a) e = .ok a := rfl

@[simp] theorem okOr_none (e : ε) : (okOr none e : Outcome ε α) = .err e := rfl

/-- `if condition { return Err(e) }`. -/
def failIf (condition : Prop) [Decidable condition] (e : ε) : Outcome ε Unit :=
  if condition then .err e else .ok ()

section FailIf

variable {condition : Prop} [Decidable condition] {e : ε}

@[simp] theorem failIf_eq_ok_iff {u : Unit} : failIf condition e = .ok u ↔ ¬condition := by
  unfold failIf
  split <;> simp_all

@[simp] theorem failIf_ne_panic : failIf condition e ≠ .panic := by
  unfold failIf
  split <;> simp

theorem failIf_of_not (h : ¬condition) : failIf condition e = .ok () := if_neg h

theorem failIf_of (h : condition) : failIf condition e = .err e := if_pos h

end FailIf

/-- An absent result, known as the error `()`, becomes `none`; a panic stays one. -/
def toOption : Outcome Unit α → Outcome ε (Option α)
  | .ok a => .ok (some a)
  | .err _ => .ok none
  | .panic => .panic

@[simp] theorem toOption_okOr (o : Option α) :
    (toOption (okOr o ()) : Outcome ε (Option α)) = .ok o := by
  cases o <;> rfl

def mapErr (f : ε → ε') : Outcome ε α → Outcome ε' α
  | .ok a => .ok a
  | .err e => .err (f e)
  | .panic => .panic

section MapErr

variable {f : ε → ε'} {x : Outcome ε α}

@[simp] theorem mapErr_ok (a : α) : mapErr f (.ok a) = .ok a := rfl

@[simp] theorem mapErr_eq_ok_iff {a : α} : mapErr f x = .ok a ↔ x = .ok a := by
  cases x <;> simp [mapErr]

theorem mapErr_eq_err_iff {e : ε'} : mapErr f x = .err e ↔ ∃ e', x = .err e' ∧ f e' = e := by
  cases x <;> simp [mapErr]

@[simp] theorem mapErr_ne_panic_iff : mapErr f x ≠ .panic ↔ x ≠ .panic := by
  cases x <;> simp [mapErr]

end MapErr

/-! ### Which errors a call can end in -/

section Errs

variable {P : ε → Prop} {x : Outcome ε α} {f : α → Outcome ε β} {e : ε}

/-- Whatever error the call ends in has the property. -/
def Errs (P : ε → Prop) (x : Outcome ε α) : Prop := ∀ e, x = .err e → P e

@[simp] theorem errs_ok (a : α) : Errs P (.ok a) := by
  simp [Errs]

@[simp] theorem errs_err_iff : Errs P (.err e : Outcome ε α) ↔ P e := by
  simp [Errs]

@[simp] theorem errs_panic : Errs P (.panic : Outcome ε α) := by
  simp [Errs]

theorem Errs.bind (hx : Errs P x) (hf : ∀ a, Errs P (f a)) : Errs P (x >>= f) := by
  intro e he
  rcases bind_eq_err_iff.mp he with hx' | ⟨a, -, ha⟩
  · exact hx e hx'
  · exact hf a e ha

theorem Errs.mono {Q : ε → Prop} (hx : Errs P x) (hPQ : ∀ e, P e → Q e) : Errs Q x :=
  fun e he => hPQ e (hx e he)

theorem errs_okOr {o : Option α} (he : P e) : Errs P (okOr o e) := by
  cases o <;> simp [okOr, he]

theorem errs_failIf {condition : Prop} [Decidable condition] (he : P e) :
    Errs P (failIf condition e) := by
  unfold failIf
  split <;> simp [he]

theorem errs_mapErr {P : ε' → Prop} {x : Outcome ε α} {f : ε → ε'} (hf : ∀ e, P (f e)) :
    Errs P (mapErr f x) := by
  intro e he
  obtain ⟨e', -, rfl⟩ := mapErr_eq_err_iff.mp he
  exact hf e'

end Errs

/-! ### Which values a call can return -/

section Oks

variable {P : β → Prop} {x : Outcome ε α} {f : α → Outcome ε β}

/-- Whatever value the call returns has the property. -/
def Oks (P : β → Prop) (x : Outcome ε β) : Prop := ∀ b, x = .ok b → P b

theorem Oks.bind (hf : ∀ a, x = .ok a → Oks P (f a)) : Oks P (x >>= f) := by
  intro b hb
  obtain ⟨a, hx, ha⟩ := bind_eq_ok_iff.mp hb
  exact hf a hx b ha

theorem Oks.bind_right (hf : ∀ a, Oks P (f a)) : Oks P (x >>= f) := Oks.bind fun a _ => hf a

end Oks

end Outcome

/-! ### Machine words -/

/-- A build: overflow checks on, or sums wrapping at the word size. -/
inductive Profile where
  | debug
  | release
  deriving DecidableEq, Repr

/-- `a + b` on unsigned words of the given width. -/
def wordAdd {ε : Type} (bits : Nat) (profile : Profile) (a b : Nat) : Outcome ε Nat :=
  if a + b < 2 ^ bits then .ok (a + b)
  else match profile with
    | .debug => .panic
    | .release => .ok ((a + b) % 2 ^ bits)

/-- `a + b` on `usize`, which is 64 bits wide. -/
def usizeAdd {ε : Type} (profile : Profile) (a b : Nat) : Outcome ε Nat := wordAdd 64 profile a b

def usizeMax : Nat := 2 ^ 64 - 1

def checkedAdd (a b : Nat) : Option Nat := if a + b < 2 ^ 64 then some (a + b) else none

def checkedSub (a b : Nat) : Option Nat := if b ≤ a then some (a - b) else none

def saturatingAdd (a b : Nat) : Nat := min (a + b) usizeMax

/-- `Vec::with_capacity`, which panics above `isize::MAX` bytes. -/
def withCapacity {ε : Type} (capacity : Nat) : Outcome ε Unit :=
  if capacity < 2 ^ 63 then .ok () else .panic

/-- The same over an allocator that may refuse, which ends the process as well. An empty vector asks for
nothing. -/
def withCapacityFrom {ε : Type} (grants : Nat → Bool) (capacity : Nat) : Outcome ε Unit :=
  if capacity = 0 ∨ grants capacity then withCapacity capacity else .panic

def debugAssert {ε : Type} (profile : Profile) (condition : Prop) [Decidable condition] :
    Outcome ε Unit :=
  if profile = .debug ∧ ¬condition then .panic else .ok ()

section Words

variable {ε : Type} {bits a b : Nat} {profile : Profile}

theorem wordAdd_of_lt (h : a + b < 2 ^ bits) : (wordAdd bits profile a b : Outcome ε Nat) = .ok (a + b) :=
  if_pos h

theorem usizeAdd_of_lt (h : a + b < 2 ^ 64) : (usizeAdd profile a b : Outcome ε Nat) = .ok (a + b) :=
  wordAdd_of_lt h

theorem usizeAdd_debug_eq_panic_iff :
    (usizeAdd .debug a b : Outcome ε Nat) = .panic ↔ 2 ^ 64 ≤ a + b := by
  unfold usizeAdd wordAdd
  split <;> simp <;> omega

theorem usizeAdd_release (a b : Nat) :
    (usizeAdd .release a b : Outcome ε Nat) = .ok ((a + b) % 2 ^ 64) := by
  unfold usizeAdd wordAdd
  split
  · rw [Nat.mod_eq_of_lt (by assumption)]
  · rfl

theorem checkedAdd_of_lt (h : a + b < 2 ^ 64) : checkedAdd a b = some (a + b) := if_pos h

theorem errs_usizeAdd {P : ε → Prop} : Outcome.Errs P (usizeAdd profile a b) := by
  unfold usizeAdd wordAdd
  split
  · simp
  · cases profile <;> simp

theorem withCapacity_of_lt (h : a < 2 ^ 63) : (withCapacity a : Outcome ε Unit) = .ok () := if_pos h

theorem withCapacityFrom_of_granted {grants : Nat → Bool} (h : a = 0 ∨ grants a) :
    (withCapacityFrom grants a : Outcome ε Unit) = withCapacity a := if_pos h

theorem withCapacityFrom_of_refused {grants : Nat → Bool} (h : ¬(a = 0 ∨ grants a)) :
    (withCapacityFrom grants a : Outcome ε Unit) = .panic := if_neg h

theorem debugAssert_of {condition : Prop} [Decidable condition] (h : condition) :
    (debugAssert profile condition : Outcome ε Unit) = .ok () := if_neg fun hn => hn.2 h

theorem saturatingAdd_of_lt (h : a + b < 2 ^ 64) : saturatingAdd a b = a + b := by
  unfold saturatingAdd usizeMax
  omega

end Words

/-! ### Slices -/

section Slices

variable {ε α : Type}

/-- `data.get(start..stop)`. -/
def getRange (data : List α) (start stop : Nat) : Option (List α) :=
  if start ≤ stop ∧ stop ≤ data.length then some ((data.drop start).take (stop - start)) else none

/-- `&data[start..stop]`. -/
def sliceRange (data : List α) (start stop : Nat) : Outcome ε (List α) :=
  match getRange data start stop with
  | some slice => .ok slice
  | none => .panic

/-- `data[i]`. -/
def index (data : List α) (i : Nat) : Outcome ε α :=
  match data[i]? with
  | some a => .ok a
  | none => .panic

/-- `<[T; n]>::try_from(slice)`. -/
def tryIntoArray (n : Nat) (slice : List α) : Option (Vector α n) :=
  if h : slice.length = n then some ⟨slice.toArray, by simpa using h⟩ else none

/-- `copy_from_slice` into an array of `n`, which panics on another length. -/
def copyFromSlice (n : Nat) (slice : List α) : Outcome ε (Vector α n) :=
  match tryIntoArray n slice with
  | some v => .ok v
  | none => .panic

theorem sliceRange_eq_ok_iff {data slice : List α} {start stop : Nat} :
    (sliceRange data start stop : Outcome ε (List α)) = .ok slice ↔
      getRange data start stop = some slice := by
  unfold sliceRange
  split <;> simp_all

theorem sliceRange_ne_panic {data : List α} {start stop : Nat} (hle : start ≤ stop)
    (hstop : stop ≤ data.length) : (sliceRange data start stop : Outcome ε (List α)) ≠ .panic := by
  rw [sliceRange, getRange, if_pos ⟨hle, hstop⟩]
  nofun

theorem copyFromSlice_ne_panic {n : Nat} {slice : List α} (h : slice.length = n) :
    (copyFromSlice n slice : Outcome ε (Vector α n)) ≠ .panic := by
  rw [copyFromSlice, tryIntoArray, dif_pos h]
  nofun

theorem errs_sliceRange {P : ε → Prop} {data : List α} {start stop : Nat} :
    Outcome.Errs P (sliceRange data start stop) := by
  unfold sliceRange
  split <;> simp

theorem tryIntoArray_eq_some_iff {n : Nat} {slice : List α} {v : Vector α n} :
    tryIntoArray n slice = some v ↔ v.toList = slice := by
  unfold tryIntoArray
  split
  · rename_i h
    subst h
    constructor
    · intro hv
      rw [← Option.some.inj hv]
      rfl
    · intro hv
      congr 1
      apply Vector.toList_inj.mp
      rw [hv]
      rfl
  · rename_i h
    simp only [reduceCtorEq, false_iff]
    rintro rfl
    exact h v.length_toList

section Cursor

variable {data rest : List α} {a : α} {i : Nat}

theorem index_of_eq_cons (h : data.drop i = a :: rest) : (index data i : Outcome ε α) = .ok a := by
  have hhead : (data.drop i)[0]? = some a := by
    rw [h]
    rfl
  rw [List.getElem?_drop, Nat.add_zero] at hhead
  rw [index, hhead]

theorem drop_succ_of_eq_cons (h : data.drop i = a :: rest) : data.drop (i + 1) = rest := by
  rw [← List.drop_drop, h]
  rfl

theorem lt_length_of_eq_cons (h : data.drop i = a :: rest) : i < data.length := by
  by_contra hge
  rw [List.drop_eq_nil_of_le (Nat.not_lt.mp hge)] at h
  cases h

end Cursor

@[simp] theorem tryIntoArray_toList {n : Nat} (v : Vector α n) : tryIntoArray n v.toList = some v :=
  tryIntoArray_eq_some_iff.mpr rfl

@[simp] theorem copyFromSlice_toList {n : Nat} (v : Vector α n) :
    (copyFromSlice n v.toList : Outcome ε (Vector α n)) = .ok v := by
  rw [copyFromSlice, tryIntoArray_toList]

end Slices

end DpapiForensic

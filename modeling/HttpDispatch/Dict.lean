import HttpDispatch.Text.Index

/-!
# Dictionaries

Values under text keys.  A key keeps the place where it was first written and the value that
was written last.  A dictionary is listed in that order, but for keys that are indices: these
come first, as numbers in ascending order.  Where the order means nothing, a dictionary is
listed by key.

`get?` is the view of a dictionary, and `get?_set` says what writing does to it.
-/

namespace HttpDispatch

/-- Values under text keys, in the order in which the keys were first written. -/
structure Dict (α : Type) where
  entries : List (String × α)
deriving Repr

namespace Dict

variable {α : Type}

/-- The dictionary without a key. -/
def empty : Dict α := ⟨[]⟩

instance : Inhabited (Dict α) := ⟨empty⟩

instance : EmptyCollection (Dict α) := ⟨empty⟩

/-- The value of the first entry under a key. -/
def lookupIn (key : String) : List (String × α) → Option α
  | [] => none
  | (k, v) :: rest => if k = key then some v else lookupIn key rest

/-- The entries with the value of a key replaced, or with a new entry at the end. -/
def setIn (key : String) (value : α) : List (String × α) → List (String × α)
  | [] => [(key, value)]
  | (k, v) :: rest => if k = key then (k, value) :: rest else (k, v) :: setIn key value rest

/-- The value under a key. -/
def get? (d : Dict α) (key : String) : Option α := lookupIn key d.entries

/-- Whether a key has a value. -/
def contains (d : Dict α) (key : String) : Bool := (d.get? key).isSome

/-- Puts a value under a key. -/
def set (d : Dict α) (key : String) (value : α) : Dict α := ⟨setIn key value d.entries⟩

/-- The dictionary of a list of entries; of two entries with one key the later one holds. -/
def ofList (entries : List (String × α)) : Dict α :=
  entries.foldl (fun d e => d.set e.1 e.2) empty

/-- The entries whose keys are indices, with these. -/
def indexed (d : Dict α) : List (Nat × String × α) :=
  d.entries.filterMap fun e => (Text.index? e.1).map (·, e)

/-- The entries in the order in which they are listed: by index, and then the others in the order
in which their keys were first written. -/
def listed (d : Dict α) : List (String × α) :=
  (d.indexed.mergeSort fun a b => decide (a.1 ≤ b.1)).map (·.2) ++
    d.entries.filter fun e => (Text.index? e.1).isNone

/-- The entries sorted by key, comparing code points. -/
def sorted (d : Dict α) : List (String × α) :=
  d.entries.mergeSort fun a b => decide (a.1 ≤ b.1)

@[simp] theorem get?_empty (key : String) : (empty : Dict α).get? key = none := rfl

@[simp] theorem listed_empty : (empty : Dict α).listed = [] := by
  simp [listed, indexed, empty]

theorem listed_singleton {key : String} (h : Text.index? key = none) (value : α) :
    (ofList [(key, value)]).listed = [(key, value)] := by
  have hentries : (ofList [(key, value)]).entries = [(key, value)] := rfl
  simp [listed, indexed, hentries, h]

/-- Listing a dictionary only changes the order of its entries. -/
theorem listed_perm (d : Dict α) : d.listed.Perm d.entries := by
  have hindexed : ∀ es : List (String × α),
      ((es.filterMap fun e => (Text.index? e.1).map (·, e)).map (·.2)) =
        es.filter fun e => (Text.index? e.1).isSome := by
    intro es
    induction es with
    | nil => rfl
    | cons e es ih => cases hn : Text.index? e.1 <;> simp [hn, ih]
  have hsorted : ((d.indexed.mergeSort fun a b => decide (a.1 ≤ b.1)).map (·.2)).Perm
      (d.entries.filter fun e => (Text.index? e.1).isSome) := by
    rw [← hindexed]
    exact (List.mergeSort_perm _ _).map _
  have hrest : (d.entries.filter fun e => (Text.index? e.1).isNone) =
      d.entries.filter fun e => !(Text.index? e.1).isSome := by
    simp only [Option.not_isSome]
  rw [listed, hrest]
  exact (hsorted.append_right _).trans (List.filter_append_perm _ _)

theorem mem_listed {d : Dict α} {e : String × α} : e ∈ d.listed ↔ e ∈ d.entries :=
  d.listed_perm.mem_iff

theorem lookupIn_setIn (key other : String) (value : α) (entries : List (String × α)) :
    lookupIn other (setIn key value entries) =
      if other = key then some value else lookupIn other entries := by
  induction entries with
  | nil =>
    by_cases h : other = key
    · simp [setIn, lookupIn, h]
    · simp [setIn, lookupIn, h, Ne.symm h]
  | cons e rest ih =>
    obtain ⟨k, v⟩ := e
    rw [setIn]
    by_cases hk : k = key
    · rw [if_pos hk, lookupIn]
      by_cases h : other = key
      · rw [if_pos (hk.trans h.symm), if_pos h]
      · rw [if_neg (fun e => h (e.symm.trans hk)), if_neg h, lookupIn,
          if_neg (fun e => h (e.symm.trans hk))]
    · rw [if_neg hk, lookupIn, ih]
      by_cases ho : k = other
      · rw [if_pos ho, if_neg (fun e => hk (ho.trans e)), lookupIn, if_pos ho]
      · rw [if_neg ho, lookupIn, if_neg ho]

/-- Writing a key changes the value of that key and of no other. -/
theorem get?_set (d : Dict α) (key other : String) (value : α) :
    (d.set key value).get? other = if other = key then some value else d.get? other :=
  lookupIn_setIn key other value d.entries

theorem get?_set_self (d : Dict α) (key : String) (value : α) :
    (d.set key value).get? key = some value := by
  rw [get?_set, if_pos rfl]

theorem get?_set_ne (d : Dict α) {key other : String} (h : other ≠ key) (value : α) :
    (d.set key value).get? other = d.get? other := by
  rw [get?_set, if_neg h]

theorem setIn_setIn (key : String) (first value : α) (entries : List (String × α)) :
    setIn key value (setIn key first entries) = setIn key value entries := by
  induction entries with
  | nil => simp [setIn]
  | cons e rest ih =>
    obtain ⟨k, v⟩ := e
    rw [setIn, setIn]
    by_cases hk : k = key
    · rw [if_pos hk, if_pos hk, setIn, if_pos hk]
    · rw [if_neg hk, if_neg hk, setIn, if_neg hk, ih]

/-- Of two values that are written under one key, the later one holds. -/
theorem set_set (d : Dict α) (key : String) (first value : α) :
    (d.set key first).set key value = d.set key value :=
  congrArg Dict.mk (setIn_setIn key first value d.entries)

end Dict

end HttpDispatch

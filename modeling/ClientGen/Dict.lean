namespace ClientGen

/-- A map from names to values, in order of first insertion. -/
abbrev Dict (α : Type) := List (String × α)

namespace Dict

variable {α β : Type}

/-- The value under a name; the first one, should the name be listed twice. -/
def get? : Dict α → String → Option α
  | [], _ => none
  | (k, v) :: rest, name => if k = name then some v else get? rest name

/-- Set a name: in its place if it is present, else at the end. -/
def put : Dict α → String → α → Dict α
  | [], name, value => [(name, value)]
  | (k, v) :: rest, name, value =>
    if k = name then (k, value) :: rest else (k, v) :: put rest name value

def has (d : Dict α) (name : String) : Bool := (get? d name).isSome

def keys (d : Dict α) : List String := d.map Prod.fst

def values (d : Dict α) : List α := d.map Prod.snd

@[simp] theorem get?_nil (name : String) : get? ([] : Dict α) name = none := rfl

@[simp] theorem keys_nil : keys ([] : Dict α) = [] := rfl

@[simp] theorem keys_cons (p : String × α) (rest : Dict α) :
    keys (p :: rest) = p.1 :: keys rest := rfl

/-- A `put` sets its own name and leaves every other one alone. -/
theorem get?_put (d : Dict α) (name other : String) (value : α) :
    get? (put d name value) other = if name = other then some value else get? d other := by
  induction d with
  | nil => simp [put, get?]
  | cons p rest ih => grind [put, get?]

theorem get?_eq_none_iff (d : Dict α) (name : String) : get? d name = none ↔ name ∉ keys d := by
  induction d with
  | nil => simp
  | cons p rest ih => grind [get?, keys_cons]

theorem mem_of_get? {d : Dict α} {name : String} {value : α} (h : get? d name = some value) :
    (name, value) ∈ d := by
  induction d with
  | nil => simp at h
  | cons p rest ih => grind [get?]

theorem keys_put (d : Dict α) (name : String) (value : α) :
    keys (put d name value) = if name ∈ keys d then keys d else keys d ++ [name] := by
  induction d with
  | nil => simp [put]
  | cons p rest ih => grind [put, keys_cons]

theorem put_of_get?_eq_none {d : Dict α} {name : String} (value : α) (h : get? d name = none) :
    put d name value = d ++ [(name, value)] := by
  induction d with
  | nil => rfl
  | cons p rest ih => grind [put, get?]

end Dict

end ClientGen

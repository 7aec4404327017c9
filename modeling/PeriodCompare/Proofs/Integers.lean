import PeriodCompare.Toml.Document

set_option autoImplicit false

namespace PeriodCompare.Toml

inductive Value.InRange : Value → Prop where
  | string (content : String) : InRange (.string content)
  | integer {n : Int} (low : minInteger ≤ n) (high : n ≤ maxInteger) : InRange (.integer n)
  | float : InRange .float
  | boolean : InRange .boolean
  | dateTime : InRange .dateTime
  | array {items : List Value} (all : ∀ v ∈ items, InRange v) : InRange (.array items)
  | table {form : Form} {entries : List (String × Value)} (all : ∀ e ∈ entries, InRange e.2) :
    InRange (.table form entries)
  | tables {items : List (List (String × Value))}
    (all : ∀ entries ∈ items, ∀ e ∈ entries, InRange e.2) : InRange (.tables items)

namespace Entries

def InRange (entries : Entries) : Prop :=
  ∀ e ∈ entries, e.2.InRange

variable {entries out : Entries} {key : String} {v : Value}

theorem InRange.nil : InRange [] := by
  intro e member
  cases member

theorem InRange.append (inRange : entries.InRange) (new : v.InRange) :
    InRange (entries ++ [(key, v)]) := by
  intro e member
  rcases List.mem_append.1 member with old | last
  · exact inRange e old
  · rw [List.mem_singleton.1 last]
    exact new

theorem InRange.of_get? (inRange : entries.InRange) (found : get? entries key = some v) :
    v.InRange := by
  obtain ⟨e, first, rfl⟩ := Option.map_eq_some_iff.1 found
  exact inRange e (List.mem_of_find?_eq_some first)

theorem InRange.set (inRange : entries.InRange) (new : v.InRange) :
    InRange (entries.set key v) := by
  intro e member
  obtain ⟨⟨name, old⟩, inside, rfl⟩ := List.mem_map.1 member
  dsimp only
  split
  · exact new
  · exact inRange _ inside

theorem InRange.of_table {form : Form} {inner : Entries}
    (inRange : Value.InRange (.table form inner)) : InRange inner := by
  cases inRange with
  | table all => exact all

theorem InRange.of_tables {items : List Entries} (inRange : Value.InRange (.tables items)) :
    ∀ inner ∈ items, InRange inner := by
  cases inRange with
  | tables all => exact all

theorem InRange.of_modify? {dotted : Bool} {change : Form → Entries → Option Entries}
    (keeps : ∀ form below out, change form below = some out → InRange below → InRange out)
    {form : Form} {path : List String} (inRange : entries.InRange)
    (changed : modify? dotted change form path entries = some out) : InRange out := by
  induction path generalizing form entries out with
  | nil => exact keeps form entries out changed inRange
  | cons key path ih =>
    unfold modify? at changed
    split at changed
    next =>
      simp only [Option.bind_eq_bind, Option.bind_eq_some_iff] at changed
      obtain ⟨below, made, same⟩ := changed
      cases same
      exact inRange.append (.table (ih .nil made))
    next => cases changed
    next form below _ found =>
      split at changed
      · cases changed
      simp only [Option.bind_eq_bind, Option.bind_eq_some_iff] at changed
      obtain ⟨below, made, same⟩ := changed
      cases same
      exact inRange.set (.table (ih (InRange.of_table (inRange.of_get? found)) made))
    next items found =>
      simp only [Option.bind_eq_bind, Option.bind_eq_some_iff] at changed
      obtain ⟨last, isLast, changed, made, same⟩ := changed
      cases same
      have before := InRange.of_tables (inRange.of_get? found)
      have after := ih (before last (List.mem_of_getLast? isLast)) made
      refine inRange.set (.tables fun inner member => ?_)
      rcases List.mem_append.1 member with old | new
      · exact before inner (List.dropLast_subset _ old)
      · rw [List.mem_singleton.1 new]
        exact after
    next => cases changed

theorem InRange.of_add? {path : List String} (inRange : entries.InRange) (new : v.InRange)
    (added : entries.add? path key v = some out) : InRange out := by
  refine inRange.of_modify? (fun form below out changed before => ?_) added
  split at changed
  · cases changed
  split at changed <;> cases changed
  exact before.append new

theorem InRange.of_addUnder? {opened path : List String} (inRange : entries.InRange)
    (new : v.InRange) (added : entries.addUnder? opened path key v = some out) : InRange out :=
  inRange.of_modify? (fun _ _ _ changed before => before.of_add? new changed) added

theorem InRange.of_openTable? {path : List String} (inRange : entries.InRange)
    (opened : entries.openTable? path key = some out) : InRange out := by
  refine inRange.of_modify? (fun form below out changed before => ?_) opened
  split at changed
  next =>
    cases changed
    exact before.append (.table nil)
  next inner found =>
    cases changed
    exact before.set (.table (InRange.of_table (before.of_get? found)))
  next => cases changed

theorem InRange.of_openNext? {path : List String} (inRange : entries.InRange)
    (opened : entries.openNext? path key = some out) : InRange out := by
  refine inRange.of_modify? (fun form below out changed before => ?_) opened
  split at changed
  next =>
    cases changed
    refine before.append (.tables fun inner member => ?_)
    rw [List.mem_singleton.1 member]
    exact nil
  next items found =>
    cases changed
    refine before.set (.tables fun inner member => ?_)
    rcases List.mem_append.1 member with old | new
    · exact InRange.of_tables (before.of_get? found) inner old
    · rw [List.mem_singleton.1 new]
      exact nil
  next => cases changed

end Entries

section Scalars

variable {cs rest : List Char} {v : Value}

theorem inRange_of_integer? {n : Int} (fits : integer? n = some v) : v.InRange := by
  unfold integer? at fits
  split at fits
  next bounds =>
    cases fits
    exact .integer bounds.1 bounds.2
  next => cases fits

theorem inRange_of_takeBased? {base : Nat} (taken : takeBased? base cs = some (v, rest)) :
    v.InRange := by
  simp only [takeBased?, Option.bind_eq_bind, Option.bind_eq_some_iff] at taken
  obtain ⟨_, -, _, -, _, fits, same⟩ := taken
  cases same
  exact inRange_of_integer? fits

theorem inRange_of_takeInteger? (taken : takeInteger? cs = some (v, rest)) : v.InRange := by
  unfold takeInteger? at taken
  split at taken
  case h_1 | h_2 | h_3 => exact inRange_of_takeBased? taken
  case h_4 =>
    simp only [Option.bind_eq_bind, Option.bind_eq_some_iff] at taken
    obtain ⟨_, -, _, -, _, fits, same⟩ := taken
    cases same
    exact inRange_of_integer? fits

theorem eq_float_of_takeFloat? (taken : takeFloat? cs = some (v, rest)) : v = .float := by
  unfold takeFloat? at taken
  dsimp only at taken
  split at taken
  case h_1 | h_2 =>
    cases taken
    rfl
  case h_3 =>
    simp only [Option.bind_eq_bind, Option.bind_eq_some_iff] at taken
    obtain ⟨_, -, _, -, _, -, taken⟩ := taken
    split at taken
    · cases taken
    simp only [Option.bind_eq_some_iff] at taken
    obtain ⟨_, -, taken⟩ := taken
    split at taken <;> cases taken
    rfl

theorem eq_dateTime_of_takeDateTime? (taken : takeDateTime? cs = some (v, rest)) :
    v = .dateTime := by
  unfold takeDateTime? at taken
  split at taken
  · obtain ⟨_, -, same⟩ := Option.map_eq_some_iff.1 taken
    cases same
    rfl
  split at taken
  · cases taken
    rfl
  split at taken
  · simp only [Option.bind_eq_bind, Option.bind_eq_some_iff] at taken
    obtain ⟨_, -, _, -, same⟩ := taken
    cases same
    rfl
  split at taken
  · split at taken
    · obtain ⟨_, -, same⟩ := Option.map_eq_some_iff.1 taken
      cases same
      rfl
    · cases taken
      rfl
  · cases taken
    rfl

theorem inRange_of_takeNumber? (taken : takeNumber? cs = some (v, rest)) : v.InRange := by
  simp only [takeNumber?, Option.or_eq_some_iff] at taken
  rcases taken with (date | ⟨-, float⟩) | ⟨-, integer⟩
  · rw [eq_dateTime_of_takeDateTime? date]
    exact .dateTime
  · rw [eq_float_of_takeFloat? float]
    exact .float
  · exact inRange_of_takeInteger? integer

end Scalars

structure ReadsInRange (fuel : Nat) : Prop where
  value : ∀ {depth cs v rest}, takeValue? fuel depth cs = some (v, rest) → v.InRange
  items : ∀ {depth cs items rest}, takeItems? fuel depth cs = some (items, rest) →
    ∀ v ∈ items, v.InRange
  members : ∀ {depth entries cs out rest}, Entries.InRange entries →
    takeMembers? fuel depth entries cs = some (out, rest) → Entries.InRange out

namespace ReadsInRange

variable {fuel depth : Nat} {cs rest : List Char}

theorem zero : ReadsInRange 0 where
  value taken := by simp [takeValue?] at taken
  items taken := by simp [takeItems?] at taken
  members _ taken := by simp [takeMembers?] at taken

theorem value_succ (reads : ReadsInRange fuel) {v : Value}
    (taken : takeValue? (fuel + 1) depth cs = some (v, rest)) : v.InRange := by
  unfold takeValue? at taken
  split at taken
  case h_1 | h_2 | h_3 => cases taken
  case h_4 same =>
    cases same
    simp only [Option.bind_eq_bind, Option.bind_eq_some_iff] at taken
    obtain ⟨⟨items, after⟩, read, same⟩ := taken
    cases same
    exact .array (reads.items read)
  case h_5 same =>
    cases same
    split at taken
    · cases taken
      exact .table Entries.InRange.nil
    · simp only [Option.bind_eq_bind, Option.bind_eq_some_iff] at taken
      obtain ⟨⟨entries, after⟩, read, same⟩ := taken
      cases same
      exact .table (reads.members Entries.InRange.nil read)
  case h_6 | h_7 =>
    cases taken
    exact .boolean
  case h_8 =>
    split at taken
    · cases taken
      exact .string _
    · exact inRange_of_takeNumber? taken

theorem items_succ (reads : ReadsInRange fuel) {items : List Value}
    (taken : takeItems? (fuel + 1) depth cs = some (items, rest)) : ∀ v ∈ items, v.InRange := by
  unfold takeItems? at taken
  split at taken
  case h_1 => cases taken
  case h_2 =>
    cases taken
    simp
  case h_3 same _ =>
    cases same
    simp only [Option.bind_eq_bind, Option.bind_eq_some_iff] at taken
    obtain ⟨⟨item, after⟩, first, taken⟩ := taken
    dsimp only at taken
    split at taken
    · simp only [Option.bind_eq_some_iff] at taken
      obtain ⟨⟨others, afterOthers⟩, later, same⟩ := taken
      cases same
      exact List.forall_mem_cons.2 ⟨reads.value first, reads.items later⟩
    · cases taken
      exact List.forall_mem_singleton.2 (reads.value first)
    · cases taken

theorem members_succ (reads : ReadsInRange fuel) {entries out : Entries}
    (inRange : entries.InRange)
    (taken : takeMembers? (fuel + 1) depth entries cs = some (out, rest)) : out.InRange := by
  simp only [takeMembers?, Option.bind_eq_bind, Option.bind_eq_some_iff] at taken
  obtain ⟨_, -, _, -, ⟨v, after⟩, read, next, added, taken⟩ := taken
  have inRange := inRange.of_add? (reads.value read) added
  split at taken
  · exact reads.members inRange taken
  · cases taken
    exact inRange
  · cases taken

end ReadsInRange

theorem readsInRange (fuel : Nat) : ReadsInRange fuel := by
  induction fuel with
  | zero => exact .zero
  | succ fuel ih =>
    exact ⟨fun taken => ih.value_succ taken, fun taken => ih.items_succ taken,
      fun inRange taken => ih.members_succ inRange taken⟩

theorem inRange_of_takeLine? {r next : Reading} {cs rest : List Char} (inRange : r.root.InRange)
    (taken : takeLine? r cs = some (next, rest)) : next.root.InRange := by
  unfold takeLine? at taken
  split at taken
  all_goals simp only [Option.bind_eq_bind, Option.bind_eq_some_iff] at taken
  case h_1 =>
    obtain ⟨_, -, same⟩ := taken
    cases same
    exact inRange
  case h_2 =>
    obtain ⟨_, -, _, -, _, -, _, -, root, opened, same⟩ := taken
    cases same
    exact inRange.of_openNext? opened
  case h_3 =>
    obtain ⟨_, -, _, -, _, -, root, opened, same⟩ := taken
    cases same
    exact inRange.of_openTable? opened
  case h_4 =>
    obtain ⟨_, -, _, -, ⟨v, after⟩, read, _, -, root, added, same⟩ := taken
    cases same
    exact inRange.of_addUnder? ((readsInRange _).value read) added

theorem inRange_of_takeLines? {fuel : Nat} {r last : Reading} {cs : List Char}
    (inRange : r.root.InRange) (taken : takeLines? fuel r cs = some last) : last.root.InRange := by
  induction fuel generalizing r cs with
  | zero => cases taken
  | succ fuel ih =>
    unfold takeLines? at taken
    split at taken
    · cases taken
      exact inRange
    split at taken
    · exact ih inRange taken
    · simp only [Option.bind_eq_bind, Option.bind_eq_some_iff] at taken
      obtain ⟨⟨next, rest⟩, read, taken⟩ := taken
      exact ih (inRange_of_takeLine? inRange read) taken

theorem inRange_of_read? {source : String} {entries : Entries}
    (read : read? source = some entries) : entries.InRange := by
  obtain ⟨last, taken, rfl⟩ := Option.map_eq_some_iff.1 read
  exact inRange_of_takeLines? .nil taken

end PeriodCompare.Toml

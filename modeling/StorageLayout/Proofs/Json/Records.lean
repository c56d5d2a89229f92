import StorageLayout.Json.Decode
import StorageLayout.Proofs.Json.Decoding
import StorageLayout.Proofs.Json.Prefixes
import StorageLayout.Proofs.Lists

/-!
# Records do not depend on the order of their members

The members of an object are read in the order of the text, but each field only changes its own part
of the record. So an object is read as a record exactly if its names are texts, no field comes twice
and none is missing, and the record is what the fields make of their members in their own order.
-/
namespace StorageLayout.Json

variable {α : Type}

/-- The value of the first member of a name. -/
def valueOf (members : List (Literal × Excerpt)) (name : String) : Option Excerpt :=
  (members.find? fun m => m.1 = some name).map Prod.snd

/-- The names of the members are texts, and none of the given names comes twice. -/
structure Legible (names : List String) (members : List (Literal × Excerpt)) : Prop where
  texts : ∀ m ∈ members, m.1 ≠ none
  once : members.Pairwise fun m m' => m.1 = m'.1 → ∀ name ∈ names, m.1 ≠ some name

theorem valueOf_cons (key : Literal) (e : Excerpt) (rest : List (Literal × Excerpt))
    (name : String) :
    valueOf ((key, e) :: rest) name = if key = some name then some e else valueOf rest name := by
  unfold valueOf
  rw [List.find?_cons]
  by_cases named : key = some name <;> simp [named]

/-- A value that is found for a name is that of a member of this name. -/
theorem mem_of_valueOf {members : List (Literal × Excerpt)} {name : String} {e : Excerpt}
    (found : valueOf members name = some e) : (some name, e) ∈ members := by
  induction members with
  | nil => cases found
  | cons m rest ih =>
    obtain ⟨key, e'⟩ := m
    rw [valueOf_cons] at found
    split at found
    · next named =>
      obtain rfl := Option.some.inj found
      simp [named]
    · exact List.mem_cons_of_mem _ (ih found)

theorem valueOf_eq_none_iff {members : List (Literal × Excerpt)} {name : String} :
    valueOf members name = none ↔ ∀ m ∈ members, m.1 ≠ some name := by
  induction members with
  | nil => simp [valueOf]
  | cons m rest ih =>
    obtain ⟨key, e⟩ := m
    rw [valueOf_cons, List.forall_mem_cons, ← ih]
    split
    · next named => simp [named]
    · next other => simp [other]

/-- No name that matters may come again behind the first member. -/
theorem legible_cons_iff {names : List String} {key : Literal} {e : Excerpt}
    {rest : List (Literal × Excerpt)} :
    Legible names ((key, e) :: rest) ↔
      key ≠ none ∧ (∀ name ∈ names, key = some name → valueOf rest name = none) ∧
        Legible names rest := by
  constructor
  · rintro ⟨texts, once⟩
    rw [List.forall_mem_cons] at texts
    rw [List.pairwise_cons] at once
    refine ⟨texts.1, ?_, texts.2, once.2⟩
    rintro name listed rfl
    rw [valueOf_eq_none_iff]
    exact fun m member same => once.1 m member same.symm name listed rfl
  · rintro ⟨text, once, legible⟩
    refine ⟨List.forall_mem_cons.2 ⟨text, legible.texts⟩, List.pairwise_cons.2 ⟨?_, legible.once⟩⟩
    rintro m member same name listed rfl
    exact valueOf_eq_none_iff.1 (once name listed rfl) m member same.symm

instance (names : List String) (members : List (Literal × Excerpt)) :
    Decidable (Legible names members) :=
  decidable_of_iff ((∀ m ∈ members, m.1 ≠ none) ∧ members.Pairwise fun m m' =>
      m.1 = m'.1 → ∀ name ∈ names, m.1 ≠ some name)
    ⟨fun both => ⟨both.1, both.2⟩, fun legible => ⟨legible.texts, legible.once⟩⟩

namespace Legible

variable {names : List String} {members members' : List (Literal × Excerpt)} {name : String}

/-- The value of a name is that of any member of this name. -/
theorem valueOf_eq_some_iff (legible : Legible names members) (listed : name ∈ names)
    {e : Excerpt} : valueOf members name = some e ↔ (some name, e) ∈ members := by
  refine ⟨mem_of_valueOf, fun member => ?_⟩
  induction members with
  | nil => cases member
  | cons m rest ih =>
    obtain ⟨key, e'⟩ := m
    obtain ⟨-, once, legible_rest⟩ := legible_cons_iff.1 legible
    rw [valueOf_cons]
    rcases List.mem_cons.1 member with same | member
    · obtain ⟨rfl, rfl⟩ := Prod.mk.inj same
      exact if_pos rfl
    · have found := ih legible_rest member
      have other : key ≠ some name := fun named => by
        rw [once name listed named] at found
        cases found
      rw [if_neg other, found]

theorem perm (legible : Legible names members) (reordered : members.Perm members') :
    Legible names members' where
  texts m listed := legible.texts m (reordered.mem_iff.2 listed)
  once := by
    refine (reordered.pairwise_iff ?_).1 legible.once
    intro m m' once same name listed
    rw [same]
    exact once same.symm name listed

/-- The order of the members does not matter to the value of a name. -/
theorem valueOf_perm (legible : Legible names members) (reordered : members.Perm members')
    (listed : name ∈ names) : valueOf members name = valueOf members' name := by
  refine Option.ext fun e => ?_
  rw [legible.valueOf_eq_some_iff listed, (legible.perm reordered).valueOf_eq_some_iff listed]
  exact reordered.mem_iff

/-- Any other member may come in front. -/
theorem cons_other (legible : Legible names members) (other : name ∉ names) (e : Excerpt) :
    Legible names ((some name, e) :: members) := by
  refine legible_cons_iff.2 ⟨by simp, ?_, legible⟩
  rintro _ listed ⟨⟩
  exact absurd listed other

end Legible

/-- A whole value can be passed over. -/
theorem Excerpt.IsWhole.skip {e : Excerpt} (whole : e.IsWhole) : e.skip = .ok () := by
  cases whole <;> rfl

theorem Excerpt.unfit_ne_ok (e : Excerpt) (wanted : Wanted) (a : α) : e.unfit wanted ≠ .ok a := by
  unfold unfit
  cases e.kind <;> simp [Except.bind]

namespace Field

/-- Reads a field where its value is given, and leaves the record alone where it is not. -/
def give (field : Field α) (given : Option Excerpt) (a : α) : Except Problem α :=
  match given with
  | none => .ok a
  | some e => field.read e a

/-- Two fields may be read in either order. -/
def Commutes (f g : Field α) : Prop :=
  ∀ d e a c, f.read d a >>= g.read e = .ok c ↔ g.read e a >>= f.read d = .ok c

/-- The field reads a value and puts it into the record. -/
def Sets {β : Type} (field : Field α) (decode : Decoder β) (set : β → α → α) : Prop :=
  ∀ e a, field.read e a = (decode e).map (set · a)

/-- Fields that change different parts of the record may be read in either order. -/
theorem Sets.commutes {β γ : Type} {f g : Field α} {decode : Decoder β} {decode' : Decoder γ}
    {set : β → α → α} {set' : γ → α → α} (sets : f.Sets decode set) (sets' : g.Sets decode' set')
    (apart : ∀ x y a, set' y (set x a) = set x (set' y a)) : f.Commutes g := by
  intro d e a c
  have read : ∀ a, f.read d a = (decode d).map (set · a) := sets d
  have read' : ∀ a, g.read e a = (decode' e).map (set' · a) := sets' e
  simp only [bind, Except.bind, read, read']
  cases decode d <;> cases decode' e <;> simp [Except.map, apart]

end Field

/-- Reads fields in their own order, each from the member of its name. -/
def readFields (fields : List (Field α)) (members : List (Literal × Excerpt)) (a : α) :
    Except Problem α :=
  fields.foldlM (fun a field => field.give (valueOf members field.name) a) a

section Fields

variable {fields : List (Field α)} {field : Field α} {members rest : List (Literal × Excerpt)}
  {e : Excerpt} {a b : α}

theorem readFields_cons (field : Field α) (fields : List (Field α))
    (members : List (Literal × Excerpt)) (a : α) :
    readFields (field :: fields) members a =
      field.give (valueOf members field.name) a >>= readFields fields members := by
  rw [readFields, List.foldlM_cons]
  rfl

theorem readFields_nil (fields : List (Field α)) (a : α) : readFields fields [] a = .ok a := by
  induction fields with
  | nil => rfl
  | cons field fields ih => rwa [readFields_cons]

/-- A member that belongs to none of the fields does not matter to them. -/
theorem readFields_of_other {name : String} (other : ∀ field ∈ fields, field.name ≠ name) :
    readFields fields ((some name, e) :: rest) a = readFields fields rest a := by
  induction fields generalizing a with
  | nil => rfl
  | cons field fields ih =>
    rw [List.forall_mem_cons] at other
    rw [readFields_cons, readFields_cons, valueOf_cons, if_neg (by simpa using Ne.symm other.1)]
    exact congrArg _ (funext fun a => ih other.2)

/-- A member may be read before all others. -/
theorem readFields_of_member (distinct : (fields.map Field.name).Nodup)
    (commute : fields.Pairwise Field.Commutes) (listed : field ∈ fields)
    (only : valueOf rest field.name = none) :
    readFields fields ((some field.name, e) :: rest) a = .ok b ↔
      field.read e a >>= readFields fields rest = .ok b := by
  induction fields generalizing a b with
  | nil => simp at listed
  | cons first fields ih =>
    rw [List.map_cons, List.nodup_cons] at distinct
    rw [List.pairwise_cons] at commute
    rcases List.mem_cons.1 listed with rfl | listed
    · have other : ∀ g ∈ fields, g.name ≠ field.name := fun g member same =>
        distinct.1 (same ▸ List.mem_map_of_mem member)
      have later (a : α) : readFields fields ((some field.name, e) :: rest) a =
          readFields fields rest a := readFields_of_other other
      rw [readFields_cons, valueOf_cons, if_pos rfl]
      simp only [bind_eq_ok_iff, later, readFields_cons, only, Field.give]
      simp
    · have other : first.name ≠ field.name := fun same =>
        distinct.1 (same ▸ List.mem_map_of_mem listed)
      have swap (given : Option Excerpt) (c : α) :
          first.give given a >>= field.read e = .ok c ↔
            field.read e a >>= first.give given = .ok c := by
        cases given with
        | none => cases read : field.read e a <;> simp [Field.give, bind, Except.bind, read]
        | some d => exact commute.1 field listed d e a c
      rw [readFields_cons, valueOf_cons, if_neg (by simpa using Ne.symm other)]
      let given := valueOf rest first.name
      calc first.give given a >>= readFields fields ((some field.name, e) :: rest) = .ok b
        _ ↔ (first.give given a >>= field.read e) >>= readFields fields rest = .ok b := by
          rw [bind_assoc, bind_eq_ok_iff, bind_eq_ok_iff]
          simp only [ih distinct.2 commute.2 listed]
        _ ↔ (field.read e a >>= first.give given) >>= readFields fields rest = .ok b := by
          rw [bind_eq_ok_iff, bind_eq_ok_iff]
          simp only [swap]
        _ ↔ field.read e a >>= readFields (first :: fields) rest = .ok b := by
          rw [bind_assoc, bind_eq_ok_iff, bind_eq_ok_iff]
          simp only [readFields_cons, given]

end Fields

namespace Record

variable {r : Record α} {members : List (Literal × Excerpt)} {seen seen' : List String} {a b : α}

def names (r : Record α) : List String := r.fields.map Field.name

/-- No name belongs to two fields, and the fields may be read in any order. -/
structure Orderless (r : Record α) : Prop where
  distinct : r.names.Nodup
  commute : r.fields.Pairwise Field.Commutes

theorem readMembers_of_other {name : String} {e : Excerpt} {rest : List (Literal × Excerpt)}
    (other : name ∉ r.names) (whole : e.IsWhole) :
    r.readMembers ((some name, e) :: rest) seen a = r.readMembers rest seen a := by
  have unnamed : r.fields.find? (·.name = name) = none := by
    rw [List.find?_eq_none]
    intro field listed
    simpa using fun named => other (List.mem_map.2 ⟨field, listed, named⟩)
  simp only [readMembers, unnamed, whole.skip, bind, Except.bind]

theorem readMembers_of_field {field : Field α} {e : Excerpt} {rest : List (Literal × Excerpt)}
    (orderless : r.Orderless) (listed : field ∈ r.fields) :
    r.readMembers ((some field.name, e) :: rest) seen a =
      if field.name ∈ seen then .error (.mismatch (.repeatedField field.name))
      else field.read e a >>= r.readMembers rest (field.name :: seen) := by
  have named : r.fields.find? (·.name = field.name) = some field :=
    find?_of_mem orderless.distinct listed
  simp only [readMembers, named]

/-- The members are fit to be read after some fields have been seen, and the fields make one record
of another out of them. -/
structure Admits (r : Record α) (members : List (Literal × Excerpt)) (seen : List String)
    (a b : α) : Prop where
  legible : Legible r.names members
  fresh : ∀ name ∈ seen, name ∈ r.names → valueOf members name = none
  read : readFields r.fields members a = .ok b

theorem admits_nil_iff : r.Admits [] seen a b ↔ a = b := by
  constructor
  · intro admits
    exact Except.ok.inj ((readFields_nil r.fields a).symm.trans admits.read)
  · rintro rfl
    exact ⟨⟨by simp, .nil⟩, fun _ _ _ => rfl, readFields_nil r.fields a⟩

/-- A member that is no field is passed over. -/
theorem admits_other_iff {name : String} {e : Excerpt} {rest : List (Literal × Excerpt)}
    (other : name ∉ r.names) :
    r.Admits ((some name, e) :: rest) seen a b ↔ r.Admits rest seen a b := by
  have unnamed : ∀ listed ∈ r.names, some name ≠ some listed := by
    rintro _ listed ⟨⟩
    exact other listed
  have same : ∀ listed ∈ r.names, valueOf ((some name, e) :: rest) listed = valueOf rest listed :=
    fun listed member => by rw [valueOf_cons, if_neg (unnamed listed member)]
  have no_field : ∀ field ∈ r.fields, field.name ≠ name := fun field listed named =>
    other (List.mem_map.2 ⟨field, listed, named⟩)
  constructor
  · rintro ⟨legible, fresh, read⟩
    refine ⟨(legible_cons_iff.1 legible).2.2, fun listed member named => ?_, ?_⟩
    · rw [← same listed named]
      exact fresh listed member named
    · rwa [readFields_of_other no_field] at read
  · rintro ⟨legible, fresh, read⟩
    refine ⟨legible.cons_other other e, fun listed member named => ?_, ?_⟩
    · rw [same listed named]
      exact fresh listed member named
    · rwa [readFields_of_other no_field]

/-- A member that is a field is read once, and the members behind it go on from there. -/
theorem admits_field_iff {field : Field α} {e : Excerpt} {rest : List (Literal × Excerpt)}
    (orderless : r.Orderless) (listed : field ∈ r.fields) :
    r.Admits ((some field.name, e) :: rest) seen a b ↔ field.name ∉ seen ∧
      ∃ next, field.read e a = .ok next ∧ r.Admits rest (field.name :: seen) next b := by
  have known : field.name ∈ r.names := List.mem_map_of_mem listed
  constructor
  · rintro ⟨legible, fresh, read⟩
    obtain ⟨-, once, legible_rest⟩ := legible_cons_iff.1 legible
    have only : valueOf rest field.name = none := once field.name known rfl
    rw [readFields_of_member orderless.distinct orderless.commute listed only] at read
    obtain ⟨next, given, others⟩ := bind_eq_ok_iff.1 read
    refine ⟨fun member => ?_, next, given, legible_rest, ?_, others⟩
    · have absent := fresh field.name member known
      rw [valueOf_cons, if_pos rfl] at absent
      cases absent
    · intro name member named
      rcases List.mem_cons.1 member with rfl | member
      · exact only
      · have absent := fresh name member named
        rw [valueOf_cons] at absent
        split at absent
        · cases absent
        · exact absent
  · rintro ⟨unseen, next, given, legible, fresh, others⟩
    have only : valueOf rest field.name = none := fresh field.name (by simp) known
    refine ⟨legible_cons_iff.2 ⟨by simp, ?_, legible⟩, fun name member named => ?_, ?_⟩
    · rintro _ - ⟨⟩
      exact only
    · have other : some field.name ≠ some name := by
        rintro ⟨⟩
        exact unseen member
      rw [valueOf_cons, if_neg other]
      exact fresh name (by simp [member]) named
    · rw [readFields_of_member orderless.distinct orderless.commute listed only]
      exact bind_eq_ok_iff.2 ⟨next, given, others⟩

/-- What is read from the members of an object in the order of the text is what the fields make of
their members in their own order. -/
theorem readMembers_eq_ok_iff (orderless : r.Orderless) (whole : ∀ m ∈ members, m.2.IsWhole) :
    (∃ seen', r.readMembers members seen a = .ok (seen', b)) ↔ r.Admits members seen a b := by
  induction members generalizing seen a with
  | nil => simp [readMembers, admits_nil_iff]
  | cons m rest ih =>
    rw [List.forall_mem_cons] at whole
    obtain ⟨_ | name, e⟩ := m
    · have illegible : ¬ r.Admits ((none, e) :: rest) seen a b := fun admits =>
        admits.legible.texts (none, e) (by simp) rfl
      simp [readMembers, illegible]
    by_cases known : name ∈ r.names
    · obtain ⟨field, listed, rfl⟩ := List.mem_map.1 known
      rw [readMembers_of_field orderless listed, admits_field_iff orderless listed]
      split
      · next repeated => simp [repeated]
      · next unseen =>
        simp only [bind_eq_ok_iff, ← ih whole.2, unseen, not_false_eq_true, true_and]
        constructor
        · rintro ⟨seen', next, given, ran⟩
          exact ⟨next, given, seen', ran⟩
        · rintro ⟨next, given, seen', ran⟩
          exact ⟨seen', next, given, ran⟩
    · rw [readMembers_of_other known whole.1, ih whole.2, admits_other_iff known]

/-- The fields that have been seen are those that have a member. -/
theorem mem_seen_iff (orderless : r.Orderless) (whole : ∀ m ∈ members, m.2.IsWhole)
    (ran : r.readMembers members seen a = .ok (seen', b)) {name : String} (named : name ∈ r.names) :
    name ∈ seen' ↔ name ∈ seen ∨ valueOf members name ≠ none := by
  induction members generalizing seen a with
  | nil =>
    obtain ⟨rfl, -⟩ := Prod.mk.inj (Except.ok.inj ran)
    simp [valueOf]
  | cons m rest ih =>
    rw [List.forall_mem_cons] at whole
    obtain ⟨_ | key, e⟩ := m
    · cases ran
    rw [valueOf_cons]
    by_cases known : key ∈ r.names
    · obtain ⟨field, listed, rfl⟩ := List.mem_map.1 known
      rw [readMembers_of_field orderless listed] at ran
      split at ran
      · cases ran
      · obtain ⟨next, -, ran⟩ := bind_eq_ok_iff.1 ran
        rw [ih whole.2 ran, List.mem_cons]
        by_cases same : field.name = name
        · simp [same]
        · simp [same, Ne.symm same]
    · have other : key ≠ name := fun same => known (same ▸ named)
      rw [readMembers_of_other known whole.1] at ran
      rw [ih whole.2 ran, if_neg (by simpa using other)]

theorem missing?_eq_none_iff :
    r.missing? seen = none ↔
      ∀ field ∈ r.fields, field.isOptional = false → field.name ∈ seen := by
  rw [missing?, Option.map_eq_none_iff, List.find?_eq_none]
  refine forall₂_congr fun field _ => ?_
  cases field.isOptional <;> simp

/-- An object is read as a record exactly if its names are texts, no field comes twice and none is
missing, and the record is what the fields make of their members in their own order. -/
theorem decode_object_eq_ok_iff (orderless : r.Orderless)
    (whole : ∀ m ∈ members, m.2.IsWhole) :
    r.decode (.object members none) = .ok a ↔
      Legible r.names members ∧ readFields r.fields members r.blank = .ok a ∧
        ∀ field ∈ r.fields, field.isOptional = false → valueOf members field.name ≠ none := by
  have complete {seen : List String} {b : α}
      (ran : r.readMembers members [] r.blank = .ok (seen, b)) : r.missing? seen = none ↔
        ∀ field ∈ r.fields, field.isOptional = false → valueOf members field.name ≠ none := by
    rw [missing?_eq_none_iff]
    refine forall₂_congr fun field listed => ?_
    rw [mem_seen_iff orderless whole ran (List.mem_map_of_mem listed)]
    simp
  rw [decode, bind_eq_ok_iff]
  constructor
  · rintro ⟨⟨seen, b⟩, ran, finished⟩
    obtain ⟨legible, -, read⟩ := (readMembers_eq_ok_iff orderless whole).1 ⟨seen, ran⟩
    dsimp only [Decoder.close, bind, Except.bind] at finished
    split at finished
    · cases finished
    · next none_missing =>
      obtain rfl := Except.ok.inj finished
      exact ⟨legible, read, (complete ran).1 none_missing⟩
  · rintro ⟨legible, read, present⟩
    have none_seen : ∀ name ∈ ([] : List String), name ∈ r.names →
        valueOf members name = none := by simp
    obtain ⟨seen, ran⟩ := (readMembers_eq_ok_iff orderless whole).2 ⟨legible, none_seen, read⟩
    refine ⟨(seen, a), ran, ?_⟩
    simp only [Decoder.close, bind, Except.bind, (complete ran).2 present]
    rfl

/-- A field takes the next item of a list, if there is one. Only an optional field may do
without. -/
theorem readItems_cons_eq_ok_iff {done : Nat} {field : Field α} {fields : List (Field α)}
    {items : List Excerpt} :
    r.readItems done (field :: fields) items none a = .ok b ↔
      (field.isOptional = false → items.head? ≠ none) ∧
        field.give items.head? a >>= r.readItems (done + 1) fields items.tail none = .ok b := by
  cases items with
  | nil =>
    cases optional : field.isOptional <;>
      simp [readItems, optional, Field.give, bind, Except.bind]
  | cons e rest => simp [readItems, Field.give]

theorem readItems_nil_eq_ok_iff {done : Nat} {items : List Excerpt} :
    r.readItems done [] items none a = .ok b ↔ items = [] ∧ a = b := by
  cases items <;> simp [readItems, Decoder.close, Except.map]

/-- Only objects and lists are read as records. -/
theorem object_or_list_of_decode {e : Excerpt} (whole : e.IsWhole) (read : r.decode e = .ok a) :
    (∃ members, e = .object members none) ∨ ∃ items, e = .list items none := by
  cases whole with
  | null | boolean | number | text => exact absurd read (Excerpt.unfit_ne_ok _ _ _)
  | list each => exact Or.inr ⟨_, rfl⟩
  | object each => exact Or.inl ⟨_, rfl⟩

theorem readItems_ne_ok (done : Nat) (fields : List (Field α)) (items : List Excerpt)
    (fault : Fault) (a b : α) : r.readItems done fields items (some fault) a ≠ .ok b := by
  induction fields generalizing done items a with
  | nil => cases items <;> exact nofun
  | cons field fields ih =>
    cases items with
    | nil => exact nofun
    | cons e rest =>
      intro read
      obtain ⟨next, -, read⟩ := bind_eq_ok_iff.1 read
      exact ih _ _ _ read

/-- A value that is cut off is no record. -/
theorem decode_ne_ok_of_isCut {e : Excerpt} (cut : e.IsCut) : r.decode e ≠ .ok a := by
  intro read
  cases cut with
  | cut fault => exact Excerpt.unfit_ne_ok _ _ _ read
  | list items fault => exact readItems_ne_ok _ _ _ _ _ _ read
  | object members fault =>
    obtain ⟨⟨seen, b⟩, -, closed⟩ := bind_eq_ok_iff.1 read
    cases closed

/-- A text is read as a record exactly if it spells a value that is read as one. -/
theorem run_eq_ok_iff {text : String} :
    r.decode.run text = .ok a ↔ ∃ e : Excerpt, e.Spells text.toList ∧ r.decode e = .ok a := by
  constructor
  · intro read
    obtain ⟨b, decoded, ended⟩ := bind_eq_ok_iff.1 read
    split at ended
    · cases ended
    · next complete =>
      obtain rfl := Except.ok.inj ended
      have held : Document.ofText text = ⟨(Document.ofText text).root, false⟩ := by
        rw [← Bool.eq_false_iff.2 complete]
      have uncut : ¬ (Document.ofText text).root.IsCut := fun cut =>
        decode_ne_ok_of_isCut cut decoded
      exact ⟨_, (spells_or_isCut held).resolve_right uncut, decoded⟩
  · rintro ⟨e, spells, decoded⟩
    simp only [Decoder.run, ofText_of_spells spells, decoded, bind, Except.bind]
    rfl

end Record

end StorageLayout.Json

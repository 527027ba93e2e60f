import CloneScan.Proofs.Json.Passing
import CloneScan.Proofs.Json.Records

/-!
# Records That Leave Fields Out

A document need not have all that a record has, and it may have more. A member that goes by the name
of a field says what the record has there, and a member of another name may say anything. No field
is named twice. Then the members fill the slots of the fields they name, in any order, and the other
slots are completed by what the fields have when they are left out.

What the slots hold after some members depends only on which names there were, not on their order.
So the slots are a function of the names that are given, `Fields.slotsOf`. One more member gives one
more name (`Fields.takes_of_member`), and that is the whole step of the reader.

## Main definitions

* `Fields.Says`: A member says what a record has.
* `Fields.slotsOf`, `Fields.valuesOf`: The slots and the values when some names are given.
* `Fields.Defaults`: What the fields have when they are left out.
* `Json.ObjectText`: How a document may write an object of which some members are known.

## Theorems

* `Fields.takes_of_member`, `Fields.fills_of_members`: What one member does to the slots, and
  several.
* `Fields.complete_slotsOf`: The fields that are left out.
* `Codec.record_reads_given`: A record is read with the values that are given.
-/

namespace CloneScan

open Json

namespace Fields

/-- A member says what a record has: its value is read as that of the field it goes by. A member
    that no field goes by may have any value. -/
def Says {σ τ : Type} : Fields σ τ → τ → String × List Char → Prop
  | nil, _, m => WellFormed m.2
  | cons name codec _ rest, (a, later), m =>
    (m.1 = name → codec.Reads m.2 a) ∧ (m.1 ≠ name → rest.Says later m)

section Saying

variable {α σ τ : Type} {name : String} {codec : Codec α} {default : Option α} {rest : Fields σ τ}

theorem says_first {a : α} {text : List Char} (h : codec.Reads text a) (later : τ) :
    (cons name codec default rest).Says (a, later) (name, text) :=
  ⟨fun _ => h, fun hname => absurd rfl hname⟩

theorem says_behind {a : α} {later : τ} {key : String} {text : List Char} (hname : key ≠ name)
    (h : rest.Says later (key, text)) :
    (cons name codec default rest).Says (a, later) (key, text) :=
  ⟨fun heq => absurd heq hname, fun _ => h⟩

/-- A member of another name says nothing. -/
theorem says_other {σ τ : Type} (fields : Fields σ τ) {m : String × List Char}
    (hname : m.1 ∉ fields.names) (h : WellFormed m.2) (values : τ) : fields.Says values m := by
  induction fields with
  | nil => exact h
  | cons name codec default rest ih =>
      rcases values with ⟨a, later⟩
      rw [names, List.mem_cons, not_or] at hname
      exact ⟨fun heq => absurd heq hname.1, fun _ => ih hname.2 later⟩

end Saying

/-- The slots that hold the values of the fields whose names are given. -/
def slotsOf {σ τ : Type} : Fields σ τ → List String → τ → σ
  | nil, _, _ => ()
  | cons name _ _ rest, given, (a, later) =>
    (if name ∈ given then some a else none, rest.slotsOf given later)

/-- The values of the fields whose names are given, and other values for the other fields. -/
def valuesOf {σ τ : Type} : Fields σ τ → List String → τ → τ → τ
  | nil, _, _, _ => ()
  | cons name _ _ rest, given, (a, later), (b, others) =>
    (if name ∈ given then a else b, rest.valuesOf given later others)

/-- Every field may be left out, and has one of the values then. -/
def Defaults {σ τ : Type} : Fields σ τ → τ → Prop
  | nil, _ => True
  | cons _ _ default rest, (b, others) => default = some b ∧ rest.Defaults others

theorem slotsOf_nil {σ τ : Type} (fields : Fields σ τ) (values : τ) :
    fields.slotsOf [] values = fields.noneRead := by
  induction fields with
  | nil => rfl
  | cons name codec default rest ih =>
      rcases values with ⟨a, later⟩
      rw [slotsOf, noneRead, ih, if_neg List.not_mem_nil]

/-- Only the names of fields count. -/
theorem slotsOf_congr {σ τ : Type} (fields : Fields σ τ) {given others : List String}
    (h : ∀ name ∈ fields.names, name ∈ given ↔ name ∈ others) (values : τ) :
    fields.slotsOf given values = fields.slotsOf others values := by
  induction fields with
  | nil => rfl
  | cons name codec default rest ih =>
      rcases values with ⟨a, later⟩
      rcases List.forall_mem_cons.mp h with ⟨hfirst, hrest⟩
      rw [slotsOf, slotsOf, ih hrest]
      exact congrArg (·, _) (if_congr hfirst rfl rfl)

/-- A member fills the slot of its field with what it says, and no member is read twice. -/
theorem takes_of_member {σ τ : Type} (fields : Fields σ τ) (hnames : fields.names.Nodup)
    {values : τ} {m : String × List Char} (htold : fields.Says values m) {given : List String}
    (honce : m.1 ∈ fields.names → m.1 ∉ given) :
    fields.Takes (fields.slotsOf given values) m (fields.slotsOf (m.1 :: given) values) := by
  induction fields with
  | nil =>
      -- No field is left that the member could go by.
      intro before after rest hbefore hafter hends
      simp only [readMember, member?, passColon_eq hbefore, bind, Except.bind]
      have hpass : passValue (after ++ (m.2 ++ rest)) = .ok rest :=
        WellFormed.passValue htold hafter hends
      rw [hpass]
      rfl
  | cons name codec default rest ih =>
      rcases values with ⟨a, later⟩
      rcases List.nodup_cons.mp hnames with ⟨hname, hothers⟩
      rw [slotsOf, slotsOf]
      by_cases hfield : m.1 = name
      · -- The slot of the field is filled, and those behind it stay as they are.
        rcases m with ⟨key, text⟩
        obtain rfl : key = name := hfield
        have hbehind : rest.slotsOf (key :: given) later = rest.slotsOf given later :=
          rest.slotsOf_congr (fun other hother => List.mem_cons.trans (or_iff_right
            (ne_of_mem_of_not_mem hother hname))) later
        rw [if_neg (honce List.mem_cons_self), if_pos List.mem_cons_self, hbehind]
        exact takes_first (htold.1 rfl) _
      · have hslot : name ∈ m.1 :: given ↔ name ∈ given :=
          List.mem_cons.trans (or_iff_right (Ne.symm hfield))
        simp only [hslot]
        exact Takes.behind (ih hothers (htold.2 hfield) fun hmem =>
          honce (List.mem_cons_of_mem name hmem)) hfield _

/-- Members fill the slots of the fields they go by, if no field is named twice. -/
theorem fills_of_members {σ τ : Type} (fields : Fields σ τ) (hnames : fields.names.Nodup)
    {values : τ} {members : List (String × List Char)} (htold : ∀ m ∈ members, fields.Says values m)
    (honce : members.Pairwise fun m m' => m.1 ∈ fields.names → m.1 ≠ m'.1) {given : List String}
    (hgiven : ∀ m ∈ members, m.1 ∈ fields.names → m.1 ∉ given) :
    fields.Fills (fields.slotsOf given values) members
      (fields.slotsOf ((members.map Prod.fst).reverse ++ given) values) := by
  induction members generalizing given with
  | nil => exact .nil _
  | cons m ms ih =>
      rcases List.forall_mem_cons.mp htold with ⟨hfirst, hrest⟩
      rcases List.forall_mem_cons.mp hgiven with ⟨hnew, hothers⟩
      rcases List.pairwise_cons.mp honce with ⟨hmonce, honce⟩
      -- The name of the first member is given from here on, and no later one has it.
      have hlater : ∀ m' ∈ ms, m'.1 ∈ fields.names → m'.1 ∉ m.1 :: given := by
        intro m' hm' hname hmem
        rcases List.mem_cons.mp hmem with heq | hmem
        · exact hmonce m' hm' (heq ▸ hname) heq.symm
        · exact hothers m' hm' hname hmem
      have hfills := ih hrest honce hlater
      rw [List.map_cons, List.reverse_cons, List.append_assoc]
      exact .cons (fields.takes_of_member hnames hfirst hnew) hfills

/-- The slots of some fields are completed by what the others have when they are left out. -/
theorem complete_slotsOf {σ τ : Type} (fields : Fields σ τ) {others : τ}
    (hothers : fields.Defaults others) (given : List String) (values : τ) :
    fields.complete (fields.slotsOf given values) = .ok (fields.valuesOf given values others) := by
  induction fields with
  | nil => rfl
  | cons name codec default rest ih =>
      rcases values with ⟨a, later⟩
      rcases others with ⟨b, others⟩
      rcases hothers with ⟨rfl, hothers⟩
      rw [slotsOf, valuesOf, complete, ih hothers]
      by_cases hname : name ∈ given
      · rw [if_pos hname, if_pos hname]
        rfl
      · rw [if_neg hname, if_neg hname]
        rfl

end Fields

/-- How a document may write an object of which some members are known: each of these is there once
    or not at all, and the others are as they like. The members come in any order and in any layout,
    and `given` are their names. -/
inductive Json.ObjectText (Says : String × List Char → Prop) (known : List String) :
    List String → List Char → Prop where
  | mk {members : List (String × List Char)} {texts : List (List Char)} {inner : List Char}
      (htold : ∀ m ∈ members, Says m)
      (honce : members.Pairwise fun m m' => m.1 ∈ known → m.1 ≠ m'.1)
      (htexts : List.Forall₂ MemberText members texts) (hinner : Separated texts inner) :
      ObjectText Says known (members.map Prod.fst) ('\x7b' :: (inner ++ ['\x7d']))

theorem Json.ObjectText.imp {Says Others : String × List Char → Prop} {known given : List String}
    {text : List Char} (h : ObjectText Says known given text) (himp : ∀ m, Says m → Others m) :
    ObjectText Others known given text := by
  cases h with
  | mk htold honce htexts hinner =>
      exact .mk (fun m hm => himp m (htold m hm)) honce htexts hinner

/-- A record is read with the values that its members say, and with the others where it has no
    member. -/
theorem Codec.record_reads_given {α σ τ : Type} {name : String} {fields : Fields σ τ} {make : τ → α}
    {parts : α → τ} (hnames : fields.names.Nodup) {values others : τ}
    (hothers : fields.Defaults others) {given : List String} {text : List Char}
    (h : ObjectText (fields.Says values) fields.names given text) :
    (record name fields make parts).Reads text (make (fields.valuesOf given values others)) := by
  cases h with
  | @mk members texts inner htold honce htexts hinner =>
      have hfills := fields.fills_of_members hnames htold honce fun _ _ _ => List.not_mem_nil
      -- The names come in the order of the members, which the slots do not know.
      have hgiven : fields.slotsOf ((members.map Prod.fst).reverse ++ []) values
          = fields.slotsOf (members.map Prod.fst) values :=
        fields.slotsOf_congr (fun name _ => by rw [List.append_nil, List.mem_reverse]) values
      rw [hgiven, fields.slotsOf_nil] at hfills
      intro blanks rest hblanks hends
      exact record_reads hfills (fields.complete_slotsOf hothers _ _) htexts hinner hblanks hends

end CloneScan

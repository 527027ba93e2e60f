import CloneScan.Proofs.Json.Codecs

/-!
# Reading Back Records

A record is read member by member into slots, one for each field, and put together once the object
ends. What a member does depends on its name alone: it fills a slot, or it is passed over. So the
reading of an object is told apart from its fields. `Fields.Takes` says what one member does to the
slots, `Fields.Fills` what several do one after the other, and `Fields.readMembers_separated` that
the reader goes through the members as they stand, in whatever order and layout. Nothing in that
says which members there are.

That the members which a record writes fill all its slots is an induction on the fields. A field
behind the first is read by passing by the first one, which is all that has to be known about the
other names: `Fields.Takes.behind` puts one more field in front of what is known of the others.

## Main definitions

* `Fields.Takes`, `Fields.Fills`: What one member does to the slots, and several.
* `Fields.names`, `Fields.filled`: The names of the fields, and slots that hold all values.
* `Fields.ReadsBack`: The value of every field is read back.

## Theorems

* `Fields.readMembers_separated`: Members are read as they stand.
* `Fields.fills_write`: The members that a record writes fill all slots.
* `Fields.complete_filled`: Filled slots hold the values.
* `Codec.record_reads`: An object is read as a record.
* `Codec.record_readsBack`: A record is read back.
-/

namespace CloneScan

open Json

namespace Fields

variable {σ τ : Type}

/-! ## Going through the members -/

/-- What a member does to the slots: its name, given the text of its value, takes them from one
    state to the next, with blanks around the colon and with anything after that may follow a
    value. -/
def Takes (fields : Fields σ τ) (slots : σ) (m : String × List Char) (next : σ) : Prop :=
  ∀ {before after rest : List Char}, Blanks before → Blanks after → Ends rest →
    fields.readMember m.1 slots (before ++ ':' :: (after ++ (m.2 ++ rest))) = .ok (next, rest)

/-- What several members do to the slots, one after the other. -/
inductive Fills (fields : Fields σ τ) : σ → List (String × List Char) → σ → Prop where
  | nil (slots : σ) : fields.Fills slots [] slots
  | cons {slots next last : σ} {m : String × List Char} {ms : List (String × List Char)}
      (h : fields.Takes slots m next) (hrest : fields.Fills next ms last) :
      fields.Fills slots (m :: ms) last

theorem nextMember_first {blanks : List Char} (hblanks : Blanks blanks) (rest : List Char) :
    nextMember true (blanks ++ '"' :: rest) = .ok (some rest) := by
  have hquote : ¬ IsBlank '"' := by decide
  rw [nextMember, passBlanks_append hblanks, passBlanks_cons hquote]
  rfl

theorem nextMember_later {before after : List Char} (hbefore : Blanks before)
    (hafter : Blanks after) (rest : List Char) :
    nextMember false (before ++ ',' :: (after ++ '"' :: rest)) = .ok (some rest) := by
  have hcomma : ¬ IsBlank ',' := by decide
  have hquote : ¬ IsBlank '"' := by decide
  have hnext : passBlanks (after ++ '"' :: rest) = '"' :: rest := by
    rw [passBlanks_append hafter, passBlanks_cons hquote]
  rw [nextMember, passBlanks_append hbefore, passBlanks_cons hcomma]
  split
  · exact nomatch ‹_ :: _ = []›
  · exact absurd (List.cons.inj ‹_›).1 (by decide)
  · rename_i heq
    obtain ⟨rfl, rfl⟩ := List.cons.inj heq
    simp only [Bool.false_eq_true, if_false, if_true, hnext]

theorem nextMember_end (first : Bool) {blanks : List Char} (hblanks : Blanks blanks)
    (rest : List Char) : nextMember first (blanks ++ '\x7d' :: rest) = .ok none := by
  have hclose : ¬ IsBlank '\x7d' := by decide
  rw [nextMember, passBlanks_append hblanks, passBlanks_cons hclose]
  rfl

/-- Once the reader has come to a member, it reads its name, takes it, and goes around. -/
theorem readMembers_round {fields : Fields σ τ} {slots next : σ} {m : String × List Char}
    (h : fields.Takes slots m next) {t : List Char} (ht : MemberText m t) :
    ∃ opened, t = '"' :: opened ∧
      ∀ (x : Char) (fuel : List Char) (first : Bool) (text rest : List Char), Ends rest →
        nextMember first text = .ok (some (opened ++ rest)) →
        fields.readMembers (x :: fuel) first slots text
          = fields.readMembers fuel false next rest := by
  cases ht with
  | @mk name letters before after value hname hbefore hafter =>
      refine ⟨_, rfl, ?_⟩
      intro x fuel first text rest hends hnext
      have hname := readString_spelled hname (before ++ ':' :: (after ++ (value ++ rest)))
      have hmember := h hbefore hafter hends
      have hshape : (letters ++ '"' :: (before ++ ':' :: (after ++ value))) ++ rest
          = letters ++ '"' :: (before ++ ':' :: (after ++ (value ++ rest))) := by
        simp only [List.append_assoc, List.cons_append]
      rw [hshape] at hnext
      simp only [readMembers, hnext, bind, Except.bind, hname, hmember]

/-- After a member the reader goes on to the end of the object, one member in each round. -/
theorem readMembers_later {fields : Fields σ τ} {slots last : σ}
    {values : List (String × List Char)} (hfills : fields.Fills slots values last)
    {texts : List (List Char)} (htexts : List.Forall₂ MemberText values texts) {text : List Char}
    (h : Later texts text) (fuel : List Char) (hfuel : texts.length < fuel.length)
    (rest : List Char) :
    ∃ blanks, Blanks blanks ∧
      fields.readMembers fuel false slots (text ++ '\x7d' :: rest)
        = .ok (last, blanks ++ '\x7d' :: rest) := by
  induction hfills generalizing texts text fuel with
  | nil slots =>
      cases htexts
      cases h with
      | nil hblanks =>
          cases fuel with
          | nil => exact absurd hfuel (Nat.not_lt_zero _)
          | cons x fuel =>
              refine ⟨_, hblanks, ?_⟩
              simp only [readMembers, nextMember_end false hblanks]
              rfl
  | cons htakes _ ih =>
      cases htexts with
      | cons hfirst hrest =>
          cases h with
          | @cons before after _ more _ hbefore hafter hlater =>
              cases fuel with
              | nil => exact absurd hfuel (Nat.not_lt_zero _)
              | cons x fuel =>
                  rcases readMembers_round htakes hfirst with ⟨opened, rfl, hround⟩
                  rcases ih hrest hlater fuel (Nat.lt_of_succ_lt_succ hfuel) with
                    ⟨blanks, hblanks, hread⟩
                  refine ⟨blanks, hblanks, ?_⟩
                  -- One round takes the first member and leaves what the induction is about.
                  have hends : Ends (more ++ '\x7d' :: rest) :=
                    ends_later hlater (ends_cons (by decide) _)
                  rw [← hread]
                  refine hround x fuel false _ _ hends ?_
                  simp only [List.append_assoc, List.cons_append]
                  exact nextMember_later hbefore hafter _

/-- The members of an object are read up to its end, as they stand. The rounds are counted by the
    opening brace and all that follows it. -/
theorem readMembers_separated {fields : Fields σ τ} {slots last : σ}
    {values : List (String × List Char)} (hfills : fields.Fills slots values last)
    {texts : List (List Char)} (htexts : List.Forall₂ MemberText values texts) {text : List Char}
    (h : Separated texts text) (rest : List Char) :
    ∃ blanks, Blanks blanks ∧
      fields.readMembers ('\x7b' :: (text ++ '\x7d' :: rest)) true slots (text ++ '\x7d' :: rest)
        = .ok (last, blanks ++ '\x7d' :: rest) := by
  cases h with
  | nil htext =>
      cases htexts
      cases hfills
      refine ⟨_, htext, ?_⟩
      simp only [readMembers, nextMember_end true htext]
      rfl
  | @cons before t more texts hbefore hlater =>
      cases htexts with
      | cons hfirst hrest =>
          cases hfills with
          | cons htakes hfills =>
              rcases readMembers_round htakes hfirst with ⟨opened, rfl, hround⟩
              have hfuel : texts.length
                  < ((before ++ ('"' :: opened ++ more)) ++ '\x7d' :: rest).length := by
                have hlength := hlater.length_le
                simp only [List.length_append, List.length_cons]
                omega
              rcases readMembers_later hfills hrest hlater _ hfuel rest with
                ⟨blanks, hblanks, hread⟩
              refine ⟨blanks, hblanks, ?_⟩
              have hends : Ends (more ++ '\x7d' :: rest) :=
                ends_later hlater (ends_cons (by decide) _)
              rw [← hread]
              refine hround _ _ true _ _ hends ?_
              simp only [List.append_assoc, List.cons_append]
              exact nextMember_first hbefore _

/-! ## The members of a record -/

/-- The names of the fields, in order. -/
def names {σ τ : Type} : Fields σ τ → List String
  | nil => []
  | cons name _ _ rest => name :: rest.names

/-- Slots that hold a value for every field. -/
def filled {σ τ : Type} : Fields σ τ → τ → σ
  | nil, _ => ()
  | cons _ _ _ rest, (a, later) => (some a, rest.filled later)

/-- The value of every field is read back. -/
def ReadsBack {σ τ : Type} : Fields σ τ → τ → Prop
  | nil, _ => True
  | cons _ codec _ rest, (a, later) => codec.ReadsBack a ∧ rest.ReadsBack later

theorem complete_filled {σ τ : Type} (fields : Fields σ τ) (values : τ) :
    fields.complete (fields.filled values) = .ok values := by
  induction fields with
  | nil => rfl
  | cons name codec default rest ih =>
      rcases values with ⟨a, later⟩
      simp only [filled, complete, ih, bind, Except.bind]
      rfl

section Behind

variable {α : Type} {name : String} {codec : Codec α} {default : Option α} {rest : Fields σ τ}

/-- The member of the first field fills its slot, if that is still empty. -/
theorem takes_first {a : α} {text : List Char} (h : codec.Reads text a) (later : σ) :
    (cons name codec default rest).Takes (none, later) (name, text) (some a, later) := by
  intro before after left hbefore hafter hends
  have hread := h hafter hends
  simp only [readMember, member?, if_true, bind, Except.bind, passColon_eq hbefore, hread]
  rfl

/-- A member of another name passes by the first field. -/
theorem Takes.behind {slots next : σ} {m : String × List Char} (h : rest.Takes slots m next)
    (hname : m.1 ≠ name) (slot : Option α) :
    (cons name codec default rest).Takes (slot, slots) m (slot, next) := by
  intro before after left hbefore hafter hends
  have hread := h hbefore hafter hends
  simp only [readMember, member?, if_neg hname] at hread ⊢
  cases hmember : rest.member? m.1 slots with
  | none =>
      -- A member that no field goes by is passed over, with the slots as they are.
      simp only [hmember, bind, Except.bind] at hread
      simp only [Option.map_none, bind, Except.bind]
      cases hcolon : passColon (before ++ ':' :: (after ++ (m.2 ++ left))) with
      | error e => simp only [hcolon, reduceCtorEq] at hread
      | ok value =>
          cases hvalue : passValue value with
          | error e => simp only [hcolon, hvalue, reduceCtorEq] at hread
          | ok left' =>
              simp only [hcolon, hvalue, pure, Except.pure, Except.ok.injEq,
                Prod.mk.injEq] at hread
              obtain ⟨rfl, rfl⟩ := hread
              simp only [hvalue]
              rfl
  | some read =>
      simp only [hmember] at hread
      simp only [Option.map_some, hread, bind, Except.bind]
      rfl

theorem Fills.behind {slots last : σ} {ms : List (String × List Char)}
    (h : rest.Fills slots ms last) (hnames : ∀ m ∈ ms, m.1 ≠ name) (slot : Option α) :
    (Fields.cons name codec default rest).Fills (slot, slots) ms (slot, last) := by
  induction h with
  | nil slots => exact .nil _
  | cons htakes _ ih =>
      rcases List.forall_mem_cons.mp hnames with ⟨hfirst, hothers⟩
      exact .cons (htakes.behind hfirst slot) (ih hothers)

end Behind

/-- A member that a record writes goes by the name of a field. -/
theorem mem_names_of_written {σ τ : Type} (fields : Fields σ τ) {values : τ}
    {members : List (String × Json)} (hwrite : fields.write values = .ok members)
    {texts : List (String × List Char)} (hwritten : List.Forall₂ WrittenMember members texts)
    {m : String × List Char} (hm : m ∈ texts) : m.1 ∈ fields.names := by
  induction fields generalizing members texts with
  | nil =>
      obtain rfl : [] = members := Except.ok.inj hwrite
      cases hwritten
      exact absurd hm List.not_mem_nil
  | cons name codec default rest ih =>
      rcases write_cons_eq_ok_iff.mp hwrite with ⟨v, others, -, hothers, rfl⟩
      cases hwritten with
      | cons hfirst hrest =>
          rcases List.mem_cons.mp hm with rfl | hm
          · cases hfirst
            exact List.mem_cons_self
          · exact List.mem_cons_of_mem name (ih hothers hrest hm)

/-- The members that a record writes fill all slots, if no two fields have the same name. -/
theorem fills_write {σ τ : Type} (fields : Fields σ τ) {values : τ}
    (hback : fields.ReadsBack values) (hnames : fields.names.Nodup)
    {members : List (String × Json)} (hwrite : fields.write values = .ok members)
    {texts : List (String × List Char)} (hwritten : List.Forall₂ WrittenMember members texts) :
    fields.Fills fields.noneRead texts (fields.filled values) := by
  induction fields generalizing members texts with
  | nil =>
      obtain rfl : [] = members := Except.ok.inj hwrite
      cases hwritten
      exact .nil _
  | cons name codec default rest ih =>
      rcases values with ⟨a, later⟩
      rcases List.nodup_cons.mp hnames with ⟨hname, hdifferent⟩
      rcases write_cons_eq_ok_iff.mp hwrite with ⟨v, others, hv, hothers, rfl⟩
      cases hwritten with
      | cons hfirst hrest =>
          cases hfirst with
          | mk hvalue =>
              -- The first member fills the first slot, and the others pass by it.
              have hreads : codec.Reads _ a := Codec.ReadsBack.reads hback.1 ⟨v, hv, hvalue⟩
              have hlater := ih hback.2 hdifferent hothers hrest
              refine .cons (takes_first hreads _) (hlater.behind ?_ _)
              rintro m hm rfl
              exact hname (mem_names_of_written rest hothers hrest hm)

end Fields

namespace Codec

variable {α σ τ : Type} {name : String} {fields : Fields σ τ} {make : τ → α} {parts : α → τ}

/-- An object is read as the record that its members fill the slots for. -/
theorem record_reads {slots : σ} {values : τ} {members : List (String × List Char)}
    {texts : List (List Char)} {inner : List Char}
    (hfills : fields.Fills fields.noneRead members slots)
    (hcomplete : fields.complete slots = .ok values)
    (htexts : List.Forall₂ MemberText members texts) (hinner : Separated texts inner) :
    (record name fields make parts).Reads ('\x7b' :: (inner ++ ['\x7d'])) (make values) := by
  intro blanks rest hblanks _
  have hopen : ¬ IsBlank '\x7b' := by decide
  have hclose : ¬ IsBlank '\x7d' := by decide
  rcases Fields.readMembers_separated hfills htexts hinner rest with ⟨left, hleft, hread⟩
  have hend : (passBlanks (left ++ '\x7d' :: rest)).tail = rest := by
    rw [passBlanks_append hleft, passBlanks_cons hclose, List.tail_cons]
  simp only [record, passBlanks_append hblanks, List.cons_append, passBlanks_cons hopen,
    List.append_assoc, List.nil_append, bind, Except.bind, hread, hcomplete, pure, Except.pure,
    hend]

/-- A record is read back if the values of its fields are and no two fields have the same name. -/
theorem record_readsBack {a : α} (hnames : fields.names.Nodup) (hmake : make (parts a) = a)
    (hback : fields.ReadsBack (parts a)) : (record name fields make parts).ReadsBack a := by
  rintro text blanks rest ⟨v, hwrite, hwritten⟩ hblanks hends
  rcases write_record_eq_ok_iff.mp hwrite with ⟨members, hmembers, rfl⟩
  cases hwritten with
  | @object _ values texts inner hvalues htexts hinner =>
      have hfills := fields.fills_write hback hnames hmembers hvalues
      have hread : (record name fields make parts).Reads _ (make (parts a)) :=
        record_reads hfills (fields.complete_filled (parts a)) htexts hinner
      rw [hmake] at hread
      exact hread hblanks hends

end Codec

end CloneScan

import CloneScan.Proofs.Regex.Escapes

/-!
# Sets before a Closing

The closing holds no bracket. So a set that is open where the text ends stays open, and a reading
that goes on into the closing fails in the end, whatever it makes of the closing on its way. Up to
there the parts of a set may well read something that is not there without the closing: a bracket
that comes first counts as a member if anything follows it, and a parenthesis is a member like any
other. What they have in common is that no bracket is left then (`SetLost`), and that is enough,
since the members of a set are read up to a bracket (`mem_of_readSetBody`).

The fuel for the members is the length of the text, which the closing changes. It makes no
difference, because every round reads a character.

## Main definitions

* `SetLost`: No bracket is left.
* `readRangeEnd`, `readStartEnd`, `readMember`: Parts of the readers of sets.
* `combiningMark?`: The mark that combines two sets.

## Theorems

* `readSetRange_stable`: A member, or a range of members.
* `readNamedSet?_append_closing`: A set named by a word.
* `openSet_stable`: The opening of a set.
* `mem_of_readSetBody`: A set is read up to a bracket.
* `readSetBody_fuel`: Enough fuel is enough.
* `readSet_stable`: A whole set.
-/

namespace CloneScan

namespace PatternReader

/-! ## Members -/

theorem readSetPiece_stable (extended : Bool) :
    Stable (EscapeLost extended) (readSetPiece extended) := by
  refine .of_first rfl (fun c rest => ?_) fun a joined h => ?_
  · rw [readSetPiece, readSetPiece]
    by_cases hescape : c = '\\'
    · rw [if_pos hescape, if_pos hescape]
      exact (readEscape_stable extended).after_first c rest
    · rw [if_neg hescape, if_neg hescape]
      exact (Stable.ok _ _).after_first c rest
  · rw [closing, readSetPiece, if_neg (by decide)] at h
    obtain ⟨_, rfl⟩ := Prod.mk.inj (Except.ok.inj h)
    exact Or.inl rfl

/-- The mark that the look ahead for the end of a range may pass, and the blanks after it. -/
def passMark (ahead : List Char) : List Char :=
  if ahead.head? = some '#' then ahead.tail.dropWhile Unicode.isBlank else ahead

theorem peekPast_eq (extended : Bool) (text : List Char) :
    peekPast extended text = if extended then
      (passMark (text.dropWhile Unicode.isBlank)).head? <|> text.head? else text.head? := by
  cases extended with
  | true => rfl
  | false => rfl

theorem passMark_append_closing (ahead : List Char) :
    passMark (ahead ++ closing) = passMark ahead ++ closing := by
  cases ahead with
  | nil => rfl
  | cons c rest =>
      rw [List.cons_append, passMark, passMark, List.head?_cons, List.head?_cons, List.tail_cons,
        List.tail_cons]
      by_cases hmark : some c = some '#'
      · rw [if_pos hmark, if_pos hmark, dropWhile_append_closing]
      · rw [if_neg hmark, if_neg hmark, List.cons_append]

/-- The look ahead sees the same character before the closing as without it, unless that is a blank,
    a remark mark or the closing itself. -/
theorem peekPast_append_closing (extended : Bool) (text : List Char) {c : Char}
    (hblank : Unicode.isBlank c = false) (hmark : c ≠ '#') (hclosing : c ≠ ')') :
    peekPast extended (text ++ closing) = some c ↔ peekPast extended text = some c := by
  have hparenthesis : closing.head? ≠ some c := fun h => hclosing (Option.some.inj h).symm
  have hhead : ∀ rest : List Char, (rest ++ closing).head? = some c ↔ rest.head? = some c := by
    intro rest
    cases rest with
    | nil => exact iff_of_false hparenthesis nofun
    | cons d rest => rfl
  rw [peekPast_eq, peekPast_eq]
  cases extended with
  | false => exact hhead text
  | true =>
      simp only [if_true, dropWhile_append_closing, passMark_append_closing]
      cases hahead : passMark (text.dropWhile Unicode.isBlank) with
      | cons d rest => rfl
      | nil =>
          -- Only blanks and a remark mark are left, so the text does not start with the character.
          refine iff_of_false hparenthesis fun hfirst => ?_
          cases text with
          | nil => exact absurd hfirst nofun
          | cons d rest =>
              obtain rfl := Option.some.inj hfirst
              rw [List.dropWhile_cons_of_neg (by rw [hblank]; exact Bool.false_ne_true), passMark,
                List.head?_cons, if_neg fun h => hmark (Option.some.inj h)] at hahead
              exact absurd hahead (List.cons_ne_nil _ _)

/-- The range between two pieces. -/
def rangeOf (first last : Escaped) : Except PatternError SetExpr := do
  let lower ← first.toBound
  let upper ← last.toBound
  if lower.char ≤ upper.char then return .range lower upper
  throw .reversedRange

/-- What follows the first piece of a member: the other end of a range, or nothing. -/
def readRangeEnd (extended : Bool) (first : Escaped) : Reads SetExpr :=
  onFirst .unclosedSet fun c rest =>
    if c = '-' ∧ ¬ (peekPast extended rest = some ']' ∨ peekPast extended rest = some '-') then do
      let (last, rest) ← readSetPiece extended (blanks extended rest)
      return (← rangeOf first last, rest)
    else do return (← first.toSetExpr, c :: rest)

theorem readSetRange_eq (extended : Bool) (text : List Char) :
    readSetRange extended text = (readSetPiece extended text >>= fun p =>
      readRangeEnd extended p.1 (blanks extended p.2)) := by
  unfold readSetRange
  cases readSetPiece extended text with
  | error e => rfl
  | ok p =>
      rcases p with ⟨first, rest⟩
      simp only [bind, Except.bind]
      cases blanks extended rest with
      | nil => rfl
      | cons c after =>
          by_cases hdash : c = '-'
          · subst hdash
            by_cases hlast : peekPast extended after = some ']' ∨ peekPast extended after = some '-'
            · simp only [readRangeEnd, onFirst, hlast, if_true, not_true_eq_false, and_false,
                if_false]
              rfl
            · simp only [readRangeEnd, onFirst, hlast, if_false, not_false_eq_true, and_true,
                if_true]
              cases readSetPiece extended (blanks extended after) with
              | error e => rfl
              | ok q =>
                  simp only [bind, Except.bind, rangeOf]
                  cases first.toBound with
                  | error e => rfl
                  | ok lower =>
                      cases q.1.toBound with
                      | error e => rfl
                      | ok upper =>
                          by_cases horder : lower.char ≤ upper.char
                          · simp only [if_pos horder]
                            rfl
                          · simp only [if_neg horder]
                            rfl
          · simp only [readRangeEnd, onFirst, hdash, false_and, if_false]
            split
            · next heq => exact absurd heq (List.cons_ne_nil c after)
            · next heq => exact absurd (List.cons.inj heq).1 hdash
            · rfl

/-- No bracket is left, so that nothing can close the set. -/
def SetLost {α : Type} (_ : α) (joined : List Char) : Prop :=
  ']' ∉ joined

theorem SetLost.closing {α : Type} (a : α) : SetLost a PatternReader.closing := by
  unfold SetLost PatternReader.closing
  decide

theorem SetLost.of_suffix {α β : Type} {a : α} {b : β} {text rest : List Char}
    (h : SetLost a text) (hsuffix : rest <:+ text) : SetLost b rest :=
  fun hmem => h (hsuffix.subset hmem)

/-- A place has no part in a set, be it a member or a bound of a range. -/
theorem readRangeEnd_anchor (extended : Bool) (a : Anchor) (text : List Char) (s : SetExpr)
    (rest : List Char) : readRangeEnd extended (.anchor a) text ≠ .ok (s, rest) := by
  cases text with
  | nil => exact error_ne_ok
  | cons c after =>
      rw [readRangeEnd, onFirst]
      split
      · cases readSetPiece extended (blanks extended after) with
        | error e => exact error_ne_ok
        | ok p => exact error_ne_ok
      · exact error_ne_ok

theorem readRangeEnd_stable (extended : Bool) (first : Escaped) :
    Stable SetLost (readRangeEnd extended first) := by
  have hrange : Stable SetLost fun rest => do
      let (last, rest) ← readSetPiece extended (blanks extended rest)
      return (← rangeOf first last, rest) := by
    refine ((readSetPiece_stable extended).after_blanks extended).bind_lift (rangeOf first)
      (fun _ s => s) fun last s joined hlost hrange => ?_
    rcases hlost with rfl | ⟨a, rfl, _⟩
    · exact fun hmem => absurd hmem (by decide)
    · -- A place is no bound.
      cases first with
      | char l => exact absurd hrange error_ne_ok
      | letter l negated => exact absurd hrange error_ne_ok
      | property q negated => exact absurd hrange error_ne_ok
      | anchor b => exact absurd hrange error_ne_ok
  refine .onFirst _ (fun c rest => ?_) fun s joined h => ?_
  · have hpeek : ∀ d, Unicode.isBlank d = false → d ≠ '#' → d ≠ ')' →
        (peekPast extended (rest ++ closing) = some d ↔ peekPast extended rest = some d) :=
      fun d => peekPast_append_closing extended rest
    have hbracket := hpeek ']' (by decide +kernel) (by decide) (by decide)
    have hdash := hpeek '-' (by decide +kernel) (by decide) (by decide)
    by_cases hend : c = '-' ∧
        ¬ (peekPast extended rest = some ']' ∨ peekPast extended rest = some '-')
    · rw [if_pos hend, if_pos (by rwa [hbracket, hdash])]
      exact hrange.after_first c rest
    · rw [if_neg hend, if_neg (by rwa [hbracket, hdash])]
      exact Stable.lift SetLost first.toSetExpr (fun s => s) (c :: rest)
  · rw [if_neg fun hend => absurd hend.1 (by decide)] at h
    rcases bind_eq_ok.mp h with ⟨_, _, hpair⟩
    obtain ⟨_, rfl⟩ := Prod.mk.inj (Except.ok.inj hpair)
    exact SetLost.closing s

theorem readSetRange_stable (extended : Bool) : Stable SetLost (readSetRange extended) := by
  rw [funext (readSetRange_eq extended)]
  refine (readSetPiece_stable extended).bind
    (fun first => (readRangeEnd_stable extended first).after_blanks extended)
    fun first text s joined hlost hs => ?_
  rcases hlost with rfl | ⟨a, rfl, _⟩
  · have hnone : SetLost first ['\\', 'z'] := fun hmem => absurd hmem (by decide)
    exact hnone.of_suffix
      (((readRangeEnd_stable extended first).after_blanks extended).suffix hs)
  · exact absurd hs (readRangeEnd_anchor extended a _ s joined)

/-! ## Sets named by a word -/

/-- The word of a named set, if what follows it closes the name. -/
def namedOf (negated : Bool) (name : List Char) : List Char → Option (SetExpr × List Char)
  | ':' :: ']' :: rest =>
    (NamedSet.ofName? (String.ofList name)).map fun s => (.named s negated, rest)
  | _ => none

theorem readNamed_eq (negated : Bool) (text : List Char) :
    readNamedSet?.named negated text
      = namedOf negated (text.takeWhile (· ≠ ':')) (text.dropWhile (· ≠ ':')) := by
  unfold readNamedSet?.named namedOf
  rfl

theorem namedOf_eq_none (negated : Bool) (name : List Char) {text : List Char}
    (h : ∀ rest, text ≠ ':' :: ']' :: rest) : namedOf negated name text = none := by
  unfold namedOf
  split
  · next rest => exact absurd rfl (h rest)
  · rfl

theorem namedOf_append_closing (negated : Bool) (name text : List Char) :
    namedOf negated name (text ++ closing)
      = (namedOf negated name text).map fun p => (p.1, p.2 ++ closing) := by
  by_cases hend : ∃ rest, text = ':' :: ']' :: rest
  · rcases hend with ⟨rest, rfl⟩
    rw [List.cons_append, List.cons_append, namedOf, namedOf, Option.map_map]
    rfl
  · have hend' : ∀ rest, text ++ closing ≠ ':' :: ']' :: rest := by
      rintro rest heq
      rcases text with _ | ⟨c, _ | ⟨d, tail⟩⟩
      · exact absurd (List.cons.inj heq).1 (by decide)
      · exact absurd (List.cons.inj (List.cons.inj heq).2).1 (by decide)
      · have hfirst := (List.cons.inj heq).1
        have hsecond := (List.cons.inj (List.cons.inj heq).2).1
        exact hend ⟨tail, by rw [hfirst, hsecond]⟩
    rw [namedOf_eq_none negated name hend',
      namedOf_eq_none negated name fun rest heq => hend ⟨rest, heq⟩]
    rfl

theorem namedOf_suffix {negated : Bool} {name text : List Char} {s : SetExpr} {rest : List Char}
    (h : namedOf negated name text = some (s, rest)) : rest <:+ text := by
  unfold namedOf at h
  split at h
  · next after =>
      rcases Option.map_eq_some_iff.mp h with ⟨_, _, heq⟩
      obtain rfl := (Prod.mk.inj heq).2
      exact (List.suffix_cons ']' _).trans (List.suffix_cons ':' _)
  · exact absurd h nofun

theorem readNamed_append_closing (negated : Bool) (text : List Char) :
    readNamedSet?.named negated (text ++ closing)
      = (readNamedSet?.named negated text).map fun p => (p.1, p.2 ++ closing) := by
  rw [readNamed_eq, readNamed_eq, List.dropWhile_append]
  cases hrest : text.dropWhile (· ≠ ':') with
  | nil => rfl
  | cons c rest =>
      have htake : (text ++ closing).takeWhile (· ≠ ':') = text.takeWhile (· ≠ ':') := by
        rw [List.takeWhile_append, if_neg]
        intro hlength
        have hsplit := congrArg List.length
          (List.takeWhile_append_dropWhile (p := (· ≠ ':')) (l := text))
        rw [List.length_append, hrest, List.length_cons] at hsplit
        omega
      rw [htake, List.isEmpty_cons, if_neg Bool.false_ne_true, namedOf_append_closing]

/-- The word of a named set is read before the closing as it is without it. -/
theorem readNamedSet?_append_closing (text : List Char) :
    readNamedSet? (text ++ closing)
      = (readNamedSet? text).map fun p => (p.1, p.2 ++ closing) := by
  rcases text with _ | ⟨c, rest⟩
  · rfl
  by_cases hcolon : c = ':'
  · subst hcolon
    rcases rest with _ | ⟨d, after⟩
    · rfl
    by_cases hnegated : d = '^'
    · subst hnegated
      exact readNamed_append_closing true after
    · have hplain : ∀ tail, readNamedSet? (':' :: d :: tail)
          = readNamedSet?.named false (d :: tail) := by
        intro tail
        unfold readNamedSet?
        split
        · next heq => exact absurd (List.cons.inj (List.cons.inj heq).2).1 hnegated
        · next heq => rw [(List.cons.inj heq).2]
        · next hnone => exact absurd rfl (hnone (d :: tail))
      rw [List.cons_append, List.cons_append, hplain, hplain]
      exact readNamed_append_closing false (d :: after)
  · have hnone : ∀ tail, readNamedSet? (c :: tail) = none := by
      intro tail
      unfold readNamedSet?
      split
      · next heq => exact absurd (List.cons.inj heq).1 hcolon
      · next heq => exact absurd (List.cons.inj heq).1 hcolon
      · rfl
    rw [List.cons_append, hnone, hnone]
    rfl

theorem readNamedSet?_suffix {text : List Char} {s : SetExpr} {rest : List Char}
    (h : readNamedSet? text = some (s, rest)) : rest <:+ text := by
  have hnamed : ∀ negated tail, readNamedSet?.named negated tail = some (s, rest) →
      rest <:+ tail := by
    intro negated tail hread
    rw [readNamed_eq] at hread
    exact (namedOf_suffix hread).trans (List.dropWhile_suffix _)
  unfold readNamedSet? at h
  split at h
  · exact (hnamed true _ h).trans ((List.suffix_cons '^' _).trans (List.suffix_cons ':' _))
  · exact (hnamed false _ h).trans (List.suffix_cons ':' _)
  · exact absurd h nofun

/-! ## The opening of a set -/

/-- What ends the opening of a set, after the dashes that stand for themselves. -/
def readStartEnd (extended : Bool) (dashes : List Char) : Reads (List SetExpr) :=
  onFirst .unclosedSet fun c rest =>
    if dashes = [] ∧ c = ']' then
      onFirst .unclosedSet (fun c rest => .ok ([.char ⟨']', false⟩], c :: rest))
        (blanks extended rest)
    else .ok (dashes.map fun _ => .char ⟨'-', false⟩, c :: rest)

theorem readSetStart_eq (extended : Bool) :
    readSetStart extended = fun text =>
      readStartEnd extended (spaced extended (· == '-') false text).1
        (spaced extended (· == '-') false text).2 := by
  funext text
  unfold readSetStart
  rcases spaced extended (· == '-') false text with ⟨dashes, rest⟩
  cases rest with
  | nil => rfl
  | cons c rest =>
      rw [readStartEnd, onFirst]
      by_cases hbracket : dashes = [] ∧ c = ']'
      · rw [if_pos hbracket]
        obtain ⟨rfl, rfl⟩ := hbracket
        cases hblanks : blanks extended rest with
        | nil => simp only [hblanks, onFirst]
        | cons c rest => simp only [hblanks, onFirst]
      · rw [if_neg hbracket]
        simp only []
        split
        · next heq => exact absurd (Prod.mk.inj heq).2 (List.cons_ne_nil c rest)
        · next heq =>
            have hparts := Prod.mk.inj heq
            exact absurd ⟨hparts.1, (List.cons.inj hparts.2).1⟩ hbracket
        · next heq =>
            have hparts := Prod.mk.inj heq
            rw [hparts.1, hparts.2]

theorem readStartEnd_stable (extended : Bool) (dashes : List Char) :
    Stable SetLost (readStartEnd extended dashes) := by
  have hgiven : Stable (α := List SetExpr) SetLost
      (onFirst .unclosedSet fun c rest => .ok ([.char ⟨']', false⟩], c :: rest)) := by
    refine .onFirst _ (fun c rest => Stable.ok SetLost _ (c :: rest)) fun a joined h => ?_
    obtain ⟨_, rfl⟩ := Prod.mk.inj (Except.ok.inj h)
    exact SetLost.closing a
  refine .onFirst _ (fun c rest => ?_) fun a joined h => ?_
  · by_cases hbracket : dashes = [] ∧ c = ']'
    · rw [if_pos hbracket, if_pos hbracket]
      exact (hgiven.after_blanks extended).after_first c rest
    · rw [if_neg hbracket, if_neg hbracket]
      exact Stable.ok SetLost _ (c :: rest)
  · rw [if_neg fun hbracket => absurd hbracket.2 (by decide)] at h
    obtain ⟨_, rfl⟩ := Prod.mk.inj (Except.ok.inj h)
    exact SetLost.closing a

theorem readSetStart_stable (extended : Bool) : Stable SetLost (readSetStart extended) := by
  rw [readSetStart_eq]
  exact .after_spaced (readStartEnd_stable extended) extended (by decide)

/-- The opening of a set, with what it says in one piece. -/
def openSet (extended : Bool) : Reads (Bool × List SetExpr) := fun text => do
  let (negated, items, rest) ← readSetOpening extended text
  return ((negated, items), rest)

theorem openSet_eq (extended : Bool) :
    openSet extended = fun text => onFirst .unclosedSet (fun c rest =>
      if c = '^' then
        onFirst .unclosedSet (fun c rest => do
          let (items, rest) ← readSetStart extended (c :: rest)
          return ((true, items), rest)) (blanks extended rest)
      else do
        let (items, rest) ← readSetStart extended (c :: rest)
        return ((false, items), rest)) (blanks extended text) := by
  funext text
  unfold openSet readSetOpening
  cases blanks extended text with
  | nil => rfl
  | cons c rest =>
      by_cases hnegated : c = '^'
      · subst hnegated
        simp only [onFirst, if_true]
        cases blanks extended rest with
        | nil => rfl
        | cons c rest =>
            simp only []
            cases readSetStart extended (c :: rest) with
            | error e => rfl
            | ok p => rfl
      · simp only [onFirst, if_neg hnegated]
        cases readSetStart extended (c :: rest) with
        | error e => rfl
        | ok p => rfl

theorem openSet_stable (extended : Bool) : Stable SetLost (openSet extended) := by
  have hsigned : ∀ negated : Bool, Stable SetLost fun text => do
      let (items, rest) ← readSetStart extended text
      return ((negated, items), rest) :=
    fun negated => (readSetStart_stable extended).map (fun items => (negated, items))
      fun _ _ hlost => hlost
  have hclosing : ∀ (negated : Bool) (p : Bool × List SetExpr) (joined : List Char), (do
      let (items, rest) ← readSetStart extended closing
      return ((negated, items), rest)) = Except.ok (p, joined) → SetLost p joined := by
    intro negated p joined h
    have hnone : SetLost p closing := SetLost.closing p
    exact hnone.of_suffix ((hsigned negated).suffix h)
  rw [openSet_eq]
  refine Stable.after_blanks (.onFirst _ (fun c rest => ?_) fun p joined h => ?_) extended
  · by_cases hnegated : c = '^'
    · rw [if_pos hnegated, if_pos hnegated]
      have hafter := Stable.onFirst .unclosedSet
        (fun c rest => hsigned true (c :: rest)) (hclosing true)
      exact (hafter.after_blanks extended).after_first c rest
    · rw [if_neg hnegated, if_neg hnegated]
      exact hsigned false (c :: rest)
  · rw [if_neg (by decide)] at h
    exact hclosing false p joined h

/-! ## The members of a set -/

/-- The mark that combines two sets, if a character is doubled to make one, and what follows it. -/
def combiningMark? (c : Char) : List Char → Option (SetOp × List Char)
  | [] => none
  | d :: rest =>
    if c = d then
      ([('&', SetOp.inter), ('-', .diff), ('~', .symmDiff)].lookup c).map fun kind => (kind, rest)
    else none

theorem combiningMark?_append_closing (c : Char) (rest : List Char) :
    combiningMark? c (rest ++ closing)
      = (combiningMark? c rest).map fun p => (p.1, p.2 ++ closing) := by
  cases rest with
  | nil =>
      by_cases hparenthesis : c = ')'
      · subst hparenthesis
        rfl
      · exact if_neg hparenthesis
  | cons d rest =>
      rw [List.cons_append, combiningMark?, combiningMark?]
      by_cases hdouble : c = d
      · rw [if_pos hdouble, if_pos hdouble, Option.map_map]
        rfl
      · rw [if_neg hdouble, if_neg hdouble]
        rfl

theorem combiningMark?_suffix {c : Char} {rest : List Char} {kind : SetOp} {after : List Char}
    (h : combiningMark? c rest = some (kind, after)) : after <:+ rest := by
  cases rest with
  | nil => exact absurd h nofun
  | cons d rest =>
      rw [combiningMark?] at h
      by_cases hdouble : c = d
      · rw [if_pos hdouble] at h
        rcases Option.map_eq_some_iff.mp h with ⟨_, _, heq⟩
        obtain rfl := (Prod.mk.inj heq).2
        exact List.suffix_cons d _
      · rw [if_neg hdouble] at h
        exact absurd h nofun

/-- One round of reading the members of a set. -/
def readMember (extended : Bool) (fuel : Nat) (pending : PendingOp) (items : List SetExpr) :
    Reads SetExpr :=
  onFirst .unclosedSet fun c rest =>
    if c = '[' then
      match readNamedSet? rest with
      | some (s, rest) => readSetBody extended fuel pending (s :: items) rest
      | none => do
        let ((negated, start), rest) ← openSet extended rest
        let (inner, rest) ← readSetBody extended fuel none start rest
        readSetBody extended fuel pending (.bracket negated inner :: items) rest
    else if c = ']' then .ok (combine pending items, rest)
    else match combiningMark? c rest with
      | some (kind, rest) => readSetBody extended fuel (some (kind, combine pending items)) [] rest
      | none => do
        let (s, rest) ← readSetRange extended (c :: rest)
        readSetBody extended fuel pending (s :: items) rest

theorem readSetBody_succ (extended : Bool) (fuel : Nat) (pending : PendingOp)
    (items : List SetExpr) (text : List Char) :
    readSetBody extended (fuel + 1) pending items text
      = readMember extended fuel pending items (blanks extended text) := by
  rw [readSetBody]
  cases blanks extended text with
  | nil => rfl
  | cons c rest =>
      rw [readMember, onFirst]
      by_cases hopen : c = '['
      · subst hopen
        rw [if_pos rfl]
        simp only []
        cases readNamedSet? rest with
        | some p => rfl
        | none =>
            simp only [openSet]
            cases readSetOpening extended rest with
            | error e => rfl
            | ok p => rfl
      rw [if_neg hopen]
      by_cases hclose : c = ']'
      · subst hclose
        rfl
      rw [if_neg hclose]
      split
      · next heq => exact absurd heq (List.cons_ne_nil c rest)
      · next heq => exact absurd (List.cons.inj heq).1 hopen
      · next heq => exact absurd (List.cons.inj heq).1 hclose
      · next heq => obtain ⟨rfl, rfl⟩ := List.cons.inj heq; rfl
      · next heq => obtain ⟨rfl, rfl⟩ := List.cons.inj heq; rfl
      · next heq => obtain ⟨rfl, rfl⟩ := List.cons.inj heq; rfl
      · next hand hdash htilde =>
          have hnone : combiningMark? c rest = none := by
            cases rest with
            | nil => rfl
            | cons d rest =>
                rw [combiningMark?]
                by_cases hdouble : c = d
                · subst hdouble
                  have hmarks : c ≠ '&' ∧ c ≠ '-' ∧ c ≠ '~' :=
                    ⟨fun h => hand rest (by rw [h]), fun h => hdash rest (by rw [h]),
                      fun h => htilde rest (by rw [h])⟩
                  simp only [if_true, List.lookup_cons, beq_false_of_ne hmarks.1,
                    beq_false_of_ne hmarks.2.1, beq_false_of_ne hmarks.2.2, List.lookup_nil,
                    Option.map_none]
                · rw [if_neg hdouble]
          rw [hnone]

/-- Members are read up to a closing bracket. -/
theorem mem_of_readSetBody {extended : Bool} {fuel : Nat} {pending : PendingOp}
    {items : List SetExpr} {text : List Char} {s : SetExpr} {rest : List Char}
    (h : readSetBody extended fuel pending items text = .ok (s, rest)) : ']' ∈ text := by
  -- Every round that does not see the bracket goes on with a later part of the text.
  induction fuel generalizing pending items text s rest with
  | zero => exact absurd h error_ne_ok
  | succ fuel ih =>
      rw [readSetBody_succ] at h
      refine (blanks_suffix extended text).subset ?_
      cases hblanks : blanks extended text with
      | nil => rw [hblanks] at h; exact absurd h error_ne_ok
      | cons c after =>
          rw [hblanks, readMember, onFirst] at h
          by_cases hclose : c = ']'
          · exact hclose ▸ List.mem_cons_self
          refine List.mem_cons_of_mem c ?_
          by_cases hopen : c = '['
          · rw [if_pos hopen] at h
            cases hnamed : readNamedSet? after with
            | some p =>
                simp only [hnamed] at h
                exact (readNamedSet?_suffix hnamed).subset (ih h)
            | none =>
                simp only [hnamed] at h
                rcases bind_eq_ok.mp h with ⟨p, hset, hbody⟩
                rcases bind_eq_ok.mp hbody with ⟨q, hinner, _⟩
                exact ((openSet_stable extended).suffix hset).subset (ih hinner)
          rw [if_neg hopen, if_neg hclose] at h
          cases hmark : combiningMark? c after with
          | some p =>
              simp only [hmark] at h
              exact (combiningMark?_suffix hmark).subset (ih h)
          | none =>
              simp only [hmark] at h
              rcases bind_eq_ok.mp h with ⟨p, hmember, hbody⟩
              have hmem := ((readSetRange_stable extended).suffix hmember).subset (ih hbody)
              exact (List.mem_cons.mp hmem).resolve_left (Ne.symm hclose)

/-- Where no bracket is left, the members of a set have no end. -/
theorem readSetBody_of_lost {extended : Bool} {fuel : Nat} {pending : PendingOp}
    {items : List SetExpr} {text : List Char} {α : Type} {a : α} (hlost : SetLost a text)
    {p : SetExpr × List Char} : readSetBody extended fuel pending items text ≠ .ok p :=
  fun h => hlost (mem_of_readSetBody h)

theorem readSetBody_stable (extended : Bool) (fuel : Nat) (pending : PendingOp)
    (items : List SetExpr) : Stable never (readSetBody extended fuel pending items) := by
  -- The rounds are joined by `Stable.bind`; whatever is lost to one of them is lost to the next.
  induction fuel generalizing pending items with
  | zero => exact .error never _
  | succ fuel ih =>
      have hbracket : Stable never (fun text => do
          let ((negated, start), rest) ← openSet extended text
          let (inner, rest) ← readSetBody extended fuel none start rest
          readSetBody extended fuel pending (.bracket negated inner :: items) rest) :=
        (openSet_stable extended).bind
          (fun p => (ih none p.2).bind (fun inner => ih pending (.bracket p.1 inner :: items))
            fun _ _ _ _ hlost => hlost.elim)
          fun p text s joined hlost h => by
            rcases bind_eq_ok.mp h with ⟨q, hinner, _⟩
            exact absurd hinner (readSetBody_of_lost hlost)
      have hmember : Stable never (fun text => do
          let (s, rest) ← readSetRange extended text
          readSetBody extended fuel pending (s :: items) rest) :=
        (readSetRange_stable extended).bind (fun s => ih pending (s :: items))
          fun _ _ _ _ hlost h => absurd h (readSetBody_of_lost hlost)
      rw [funext (readSetBody_succ extended fuel pending items)]
      refine Stable.after_blanks (.onFirst _ (fun c rest => ?_) fun s joined h => ?_) extended
      · by_cases hopen : c = '['
        · rw [if_pos hopen, if_pos hopen, readNamedSet?_append_closing]
          cases hnamed : readNamedSet? rest with
          | some p =>
              exact (ih pending (p.1 :: items) p.2).mono (fun _ _ hlost => hlost)
                ((readNamedSet?_suffix hnamed).trans (List.suffix_cons c rest))
          | none => exact hbracket.after_first c rest
        rw [if_neg hopen, if_neg hopen]
        by_cases hclose : c = ']'
        · rw [if_pos hclose, if_pos hclose]
          exact (Stable.ok never _).after_first c rest
        rw [if_neg hclose, if_neg hclose, combiningMark?_append_closing]
        cases hmark : combiningMark? c rest with
        | some p =>
            exact (ih (some (p.1, combine pending items)) [] p.2).mono (fun _ _ hlost => hlost)
              ((combiningMark?_suffix hmark).trans (List.suffix_cons c rest))
        | none => exact hmember (c :: rest)
      · -- What is read into the closing is a member, and the set goes on after it.
        rw [if_neg (by decide), if_neg (by decide)] at h
        exact hmember.lost_of_closing rfl h

/-- A member takes at least one character. -/
theorem length_lt_of_readSetRange {extended : Bool} {text : List Char} {s : SetExpr}
    {rest : List Char} (h : readSetRange extended text = .ok (s, rest)) :
    rest.length < text.length := by
  rw [readSetRange_eq] at h
  rcases bind_eq_ok.mp h with ⟨p, hfirst, hrest⟩
  have hpiece : p.2.length < text.length := by
    cases text with
    | nil => exact absurd hfirst error_ne_ok
    | cons c after =>
        rw [readSetPiece] at hfirst
        refine Nat.lt_succ_of_le (List.IsSuffix.length_le ?_)
        by_cases hescape : c = '\\'
        · rw [if_pos hescape] at hfirst
          exact (readEscape_stable extended).suffix hfirst
        · rw [if_neg hescape] at hfirst
          obtain rfl := Except.ok.inj hfirst
          exact List.suffix_refl after
  have hend := ((readRangeEnd_stable extended p.1).after_blanks extended).suffix hrest
  exact Nat.lt_of_le_of_lt hend.length_le hpiece

/-- Every round reads a character, so the fuel makes no difference where it is enough. -/
theorem readSetBody_fuel {extended : Bool} {fuel fuel' : Nat} {pending : PendingOp}
    {items : List SetExpr} {text : List Char} (h : text.length < fuel) (h' : text.length < fuel') :
    readSetBody extended fuel pending items text
      = readSetBody extended fuel' pending items text := by
  induction fuel generalizing fuel' pending items text with
  | zero => exact absurd h (Nat.not_lt_zero _)
  | succ fuel ih =>
      cases fuel' with
      | zero => exact absurd h' (Nat.not_lt_zero _)
      | succ fuel' =>
          rw [readSetBody_succ, readSetBody_succ]
          have hblanks := (blanks_suffix extended text).length_le
          cases hleft : blanks extended text with
          | nil => rfl
          | cons c rest =>
              rw [hleft, List.length_cons] at hblanks
              -- Whatever is left after this round is shorter than both bounds on the fuel.
              have hround : ∀ {pending items} {after : List Char}, after.length ≤ rest.length →
                  readSetBody extended fuel pending items after
                    = readSetBody extended fuel' pending items after :=
                fun hafter => ih (by omega) (by omega)
              rw [readMember, readMember, onFirst, onFirst]
              by_cases hopen : c = '['
              · rw [if_pos hopen, if_pos hopen]
                cases hnamed : readNamedSet? rest with
                | some p => exact hround (readNamedSet?_suffix hnamed).length_le
                | none =>
                    cases hset : openSet extended rest with
                    | error e => rfl
                    | ok p =>
                        have hopening := ((openSet_stable extended).suffix hset).length_le
                        simp only [bind, Except.bind, hround hopening]
                        cases hinner : readSetBody extended fuel' none p.1.2 p.2 with
                        | error e => rfl
                        | ok q =>
                            have hbody :=
                              (readSetBody_stable extended fuel' none p.1.2).suffix hinner
                            exact hround (Nat.le_trans hbody.length_le hopening)
              rw [if_neg hopen, if_neg hopen]
              by_cases hclose : c = ']'
              · rw [if_pos hclose, if_pos hclose]
              rw [if_neg hclose, if_neg hclose]
              cases hmark : combiningMark? c rest with
              | some p => exact hround (combiningMark?_suffix hmark).length_le
              | none =>
                  cases hmember : readSetRange extended (c :: rest) with
                  | error e => rfl
                  | ok p => exact hround (Nat.le_of_lt_succ (length_lt_of_readSetRange hmember))

/-- The members of a set, with as much fuel as the text has characters. -/
theorem readMembers_stable (extended : Bool) (start : List SetExpr) :
    Stable never fun text => readSetBody extended (text.length + 1) none start text := by
  intro text
  have hlonger : text.length < (text ++ closing).length + 1 := by
    rw [List.length_append]
    omega
  simp only []
  rw [readSetBody_fuel (Nat.lt_succ_self text.length) hlonger]
  exact readSetBody_stable extended _ none start text

theorem readSet_eq (extended : Bool) (text : List Char) :
    readSet extended text = (openSet extended text >>= fun p =>
      readSetBody extended (p.2.length + 1) none p.1.2 p.2 >>= fun q =>
        .ok (.set p.1.1 q.1, q.2)) := by
  unfold readSet openSet
  cases readSetOpening extended text with
  | error e => rfl
  | ok p => rfl

theorem readSet_stable (extended : Bool) : Stable never (readSet extended) := by
  rw [funext (readSet_eq extended)]
  refine (openSet_stable extended).bind
    (fun p => (readMembers_stable extended p.2).map (Pattern.set p.1) fun _ _ hlost => hlost)
    fun p text pattern joined hlost h => ?_
  rcases bind_eq_ok.mp h with ⟨q, hbody, _⟩
  exact absurd hbody (readSetBody_of_lost hlost)

end PatternReader

end CloneScan

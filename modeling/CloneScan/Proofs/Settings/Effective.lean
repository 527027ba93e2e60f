import CloneScan.CommandLine
import CloneScan.Proofs.Json.PartialRecords
import CloneScan.Proofs.Json.ReadBack

/-!
# The Settings of a Run

Where the settings of a run come from. A document gives some of them, and some parts of the policy
for images in turn; what it does not give is as it is initially. It may be written in any way, and
may have members that are no settings. The command line comes on top, and can change less than it
seems: a flag switches a part of the policy on and never off, and extensions come from the document
alone.

Which documents give which settings is said by their members, `Settings.Member`, without the reader
and without the fields that it goes by. That these members say what the fields ask for is then one
case for each of them (`Settings.says_of_member`).

## Main definitions

* `ImagePolicy.Member`, `Settings.Member`: What a member may say.
* `Settings.Document`: A document that gives some of the settings.
* `Settings.givenBy`: The settings as far as they are given.
* `Options.Follows`: Options are those of settings and a command line.

## Theorems

* `ImagePolicy.codec_reads`, `Settings.ofText_document`: Documents are read as what they give.
* `Options.follows_overrideWith`: What a command line changes.
* `Settings.effective`: The settings of a run.
-/

namespace CloneScan

open Json

namespace ImagePolicy

/-- The members of an image policy. -/
def keys : List String :=
  ["ignore_literals", "ignore_identifiers"]

/-- What a member may say, given a text of its value: a part of the policy, or under another name
    anything. -/
inductive Member (p : ImagePolicy) : String × List Char → Prop where
  | literals {text : List Char} (h : Written (.truth p.ignoreLiterals) text) :
      Member p ("ignore_literals", text)
  | identifiers {text : List Char} (h : Written (.truth p.ignoreIdentifiers) text) :
      Member p ("ignore_identifiers", text)
  | other {name : String} {text : List Char} (hname : name ∉ keys) (h : WellFormed text) :
      Member p (name, text)

/-- The policy as far as it is given. -/
def givenBy (p : ImagePolicy) (given : List String) : ImagePolicy where
  ignoreLiterals := if "ignore_literals" ∈ given then p.ignoreLiterals else exact.ignoreLiterals
  ignoreIdentifiers :=
    if "ignore_identifiers" ∈ given then p.ignoreIdentifiers else exact.ignoreIdentifiers

/-- The fields that a policy is read by. -/
def fields : Fields (Option Bool × Option Bool × Unit) (Bool × Bool × Unit) :=
  .cons "ignore_literals" Codec.truth (some exact.ignoreLiterals) <|
    .cons "ignore_identifiers" Codec.truth (some exact.ignoreIdentifiers) .nil

theorem says_of_member {p : ImagePolicy} {m : String × List Char} (h : p.Member m) :
    fields.Says (p.ignoreLiterals, p.ignoreIdentifiers, ()) m := by
  have htruth : ∀ b text, Written (.truth b) text → Codec.truth.Reads text b := fun b text h =>
    Codec.ReadsBack.reads (Codec.truth_readsBack b) ⟨_, rfl, h⟩
  cases h with
  | literals h => exact Fields.says_first (htruth _ _ h) _
  | identifiers h =>
      exact Fields.says_behind (by decide) (Fields.says_first (htruth _ _ h) _)
  | other hname h => exact fields.says_other hname h _

theorem codec_reads {p : ImagePolicy} {given : List String} {text : List Char}
    (h : ObjectText p.Member keys given text) : codec.Reads text (p.givenBy given) := by
  have hdefaults : fields.Defaults (exact.ignoreLiterals, exact.ignoreIdentifiers, ()) :=
    ⟨rfl, rfl, trivial⟩
  have hobject : ObjectText (fields.Says (p.ignoreLiterals, p.ignoreIdentifiers, ())) fields.names
      given text := h.imp fun _ => says_of_member
  -- The values that the fields come to are those of the given policy, field by field.
  intro blanks rest hblanks hends
  exact Codec.record_reads_given (by decide) hdefaults hobject hblanks hends

end ImagePolicy

namespace Settings

/-- The members of settings. -/
def keys : List String :=
  ["cpd", "comment_regex", "comment_message", "extensions"]

/-- What a member may say, given a text of its value: one of the settings, or under another name
    anything. A policy is an object in turn, and `inside` are the names of its members. -/
inductive Member (s : Settings) (inside : List String) : String × List Char → Prop where
  | policy {text : List Char} (h : ObjectText s.policy.Member ImagePolicy.keys inside text) :
      Member s inside ("cpd", text)
  | commentPattern {text : List Char}
      (h : Written ((s.commentPattern.map Json.string).getD .null) text) :
      Member s inside ("comment_regex", text)
  | commentMessage {text : List Char}
      (h : Written ((s.commentMessage.map Json.string).getD .null) text) :
      Member s inside ("comment_message", text)
  | extensions {text : List Char} (h : Written (.array (s.extensions.map Json.string)) text) :
      Member s inside ("extensions", text)
  | other {name : String} {text : List Char} (hname : name ∉ keys) (h : WellFormed text) :
      Member s inside (name, text)

/-- A document gives some of the settings, and some parts of the policy if that is one of them. -/
inductive Document (s : Settings) (given inside : List String) : String → Prop where
  | mk {before text after : List Char} (hbefore : Blanks before) (hafter : Blanks after)
      (h : ObjectText (s.Member inside) keys given text) :
      Document s given inside (String.ofList (before ++ (text ++ after)))

/-- The settings as far as they are given, and the initial ones otherwise. -/
def givenBy (s : Settings) (given inside : List String) : Settings where
  policy := if "cpd" ∈ given then s.policy.givenBy inside else initial.policy
  commentPattern := if "comment_regex" ∈ given then s.commentPattern else initial.commentPattern
  commentMessage := if "comment_message" ∈ given then s.commentMessage else initial.commentMessage
  extensions := if "extensions" ∈ given then s.extensions else initial.extensions

/-- The fields that settings are read by. -/
def fields : Fields
    (Option ImagePolicy × Option (Option String) × Option (Option String) ×
      Option (List String) × Unit)
    (ImagePolicy × Option String × Option String × List String × Unit) :=
  .cons "cpd" ImagePolicy.codec (some initial.policy) <|
    .cons "comment_regex" stringCodec.optional (some initial.commentPattern) <|
    .cons "comment_message" stringCodec.optional (some initial.commentMessage) <|
    .cons "extensions" stringCodec.list (some initial.extensions) .nil

theorem optional_reads {o : Option String} {text : List Char}
    (h : Written ((o.map Json.string).getD .null) text) : stringCodec.optional.Reads text o :=
  have hback : stringCodec.optional.ReadsBack o :=
    Codec.optional_readsBack fun a _ => ⟨stringCodec_readsBack a, nofun⟩
  have hwrite : stringCodec.optional.write o = .ok ((o.map Json.string).getD .null) := by
    cases o <;> rfl
  hback.reads ⟨_, hwrite, h⟩

theorem says_of_member {s : Settings} {inside : List String} {m : String × List Char}
    (h : s.Member inside m) :
    fields.Says (s.policy.givenBy inside, s.commentPattern, s.commentMessage, s.extensions, ())
      m := by
  cases h with
  | policy h => exact Fields.says_first (ImagePolicy.codec_reads h) _
  | commentPattern h =>
      exact Fields.says_behind (by decide) (Fields.says_first (optional_reads h) _)
  | commentMessage h =>
      exact Fields.says_behind (by decide)
        (Fields.says_behind (by decide) (Fields.says_first (optional_reads h) _))
  | extensions h =>
      have hback : stringCodec.list.ReadsBack s.extensions :=
        Codec.list_readsBack fun e _ => stringCodec_readsBack e
      have hwrite : stringCodec.list.write s.extensions = .ok (.array (s.extensions.map .string)) :=
        Codec.write_list_eq_ok_iff.mpr ⟨_, List.forall₂_map_right_iff.mpr
          (List.forall₂_same.mpr fun _ _ => rfl), rfl⟩
      have hread : stringCodec.list.Reads _ s.extensions := hback.reads ⟨_, hwrite, h⟩
      exact Fields.says_behind (by decide) (Fields.says_behind (by decide)
        (Fields.says_behind (by decide) (Fields.says_first hread _)))
  | other hname h => exact fields.says_other hname h _

/-- A document is read as the settings that it gives. -/
theorem ofText_document {s : Settings} {given inside : List String} {document : String}
    (h : s.Document given inside document) :
    Settings.ofText document = .ok (s.givenBy given inside) := by
  cases h with
  | @mk before text after hbefore hafter h =>
      have hdefaults : fields.Defaults (initial.policy, initial.commentPattern,
          initial.commentMessage, initial.extensions, ()) := ⟨rfl, rfl, rfl, rfl, trivial⟩
      have hobject : ObjectText (fields.Says (s.policy.givenBy inside, s.commentPattern,
          s.commentMessage, s.extensions, ())) fields.names given text :=
        h.imp fun _ => says_of_member
      have hread : codec.Reads text (s.givenBy given inside) := by
        intro blanks rest hblanks hends
        exact Codec.record_reads_given (by decide) hdefaults hobject hblanks hends
      rw [Settings.ofText, Codec.decode_of_reads hread hbefore hafter]

end Settings

/-- Options are those of some settings with what a command line says on top: flags only switch on,
    a pattern or a message takes the place of that of the settings if there is one, and nothing else
    of the settings can be changed. -/
structure Options.Follows (o : Options) (s : Settings) (a : Arguments) : Prop where
  ignoreLiterals : o.settings.policy.ignoreLiterals = true ↔
    s.policy.ignoreLiterals = true ∨ .ignoreLiterals ∈ a.flags
  ignoreIdentifiers : o.settings.policy.ignoreIdentifiers = true ↔
    s.policy.ignoreIdentifiers = true ∨ .ignoreIdentifiers ∈ a.flags
  givenPattern : ∀ p, a.commentPattern = some p → o.settings.commentPattern = some p
  otherPattern : a.commentPattern = none → o.settings.commentPattern = s.commentPattern
  givenMessage : ∀ m, a.commentMessage = some m → o.settings.commentMessage = some m
  otherMessage : a.commentMessage = none → o.settings.commentMessage = s.commentMessage
  extensions : o.settings.extensions = s.extensions
  paths : o.paths = a.paths.map Path.ofString
  format : o.format = a.format.getD .text
  debug : o.debug = true ↔ .debug ∈ a.flags

theorem Options.follows_overrideWith (s : Settings) (a : Arguments) :
    Options.Follows ⟨a.paths.map Path.ofString, s.overrideWith a, a.format.getD .text,
      a.flags.contains .debug⟩ s a where
  ignoreLiterals := by rw [Settings.overrideWith, Bool.or_eq_true, List.contains_iff_mem]
  ignoreIdentifiers := by rw [Settings.overrideWith, Bool.or_eq_true, List.contains_iff_mem]
  givenPattern p h := by rw [Settings.overrideWith, h]; rfl
  otherPattern h := by rw [Settings.overrideWith, h]; rfl
  givenMessage m h := by rw [Settings.overrideWith, h]; rfl
  otherMessage h := by rw [Settings.overrideWith, h]; rfl
  extensions := rfl
  paths := rfl
  format := rfl
  debug := List.contains_iff_mem

/-- A settings document may give any of the settings and any part of the policy, in any order and
    layout, with any members of other names among them. It is read as the settings that it gives,
    and as the initial ones in all else. With it as its settings file, a command line comes to these
    settings with its own flags, pattern and message on top. -/
theorem Settings.effective (s : Settings) (given inside : List String) (document : String)
    (h : s.Document given inside document) :
    Settings.ofText document = .ok (s.givenBy given inside) ∧
    ∀ (fs : FileSystem) (a : Arguments) (file : String), a.settingsFile = some file →
      fs.readText ⟨file⟩ = .ok document →
      ∃ o, Options.ofArguments fs a = .ok o ∧ o.Follows (s.givenBy given inside) a := by
  have htext := Settings.ofText_document h
  refine ⟨htext, fun fs a file hfile hread => ?_⟩
  refine ⟨_, ?_, Options.follows_overrideWith (s.givenBy given inside) a⟩
  simp only [Options.ofArguments, hfile, Settings.ofFile, hread, bind, Except.bind, htext]
  rfl

/-- A document with a member that nobody wants, a part of a policy under a name that is escaped, and
    a message that is none. -/
def partialDocument : String :=
  "\x7b\"x\":[-1.5E+3,\x7b\"\\uD800\":true\x7d], " ++
    "\"c\\u0070d\":\x7b\"ignore_identifiers\" :true\x7d," ++ "\"comment_message\":null\x7d\n"

/-- What the document is about. -/
def partialSettings : Settings :=
  ⟨⟨false, true⟩, some "a", none, ["h"]⟩

/-- A value of numbers, lists and objects, where a name has half a character. -/
theorem wellFormed_unwanted : WellFormed "[-1.5E+3,\x7b\"\\uD800\":true\x7d]".toList := by
  have hone : Digits ['1'] := ⟨List.cons_ne_nil _ _, List.forall_mem_singleton.mpr rfl⟩
  have hfive : Digits ['5'] := ⟨List.cons_ne_nil _ _, List.forall_mem_singleton.mpr rfl⟩
  have hthree : Digits ['3'] := ⟨List.cons_ne_nil _ _, List.forall_mem_singleton.mpr rfl⟩
  have hnumber : WellFormed "-1.5E+3".toList :=
    .number (.mk (Or.inr rfl) hone (fun h => by cases h) (.some hfive)
      (.some (Or.inr rfl) (Or.inr (Or.inl rfl)) hthree))
  have hhalf : Lettered "\\uD800".toList := .cons (.number rfl rfl rfl rfl) .nil
  have hobject : WellFormed "\x7b\"\\uD800\":true\x7d".toList :=
    .object (List.forall_mem_singleton.mpr (.truth true))
      (.cons (.mk hhalf blanks_nil blanks_nil) .nil) (.cons blanks_nil (.nil blanks_nil))
  exact .array (List.forall_mem_cons.mpr ⟨hnumber, List.forall_mem_singleton.mpr hobject⟩)
    (.cons blanks_nil (.cons blanks_nil blanks_nil (.nil blanks_nil)))

theorem spelled_cpd : Spelled "cpd".toList "c\\u0070d".toList := by
  have hc : Spelling 'c' ['c'] := .plain (by decide) (by decide) (by decide)
  have hd : Spelling 'd' ['d'] := .plain (by decide) (by decide) (by decide)
  have hp : Spelling 'p' ['\\', 'u', '0', '0', '7', '0'] :=
    .number rfl rfl rfl rfl rfl (Or.inl (by decide))
  exact .cons hc (.cons hp (.cons hd .nil))

theorem document_partialDocument :
    partialSettings.Document ["x", "cpd", "comment_message"] ["ignore_identifiers"]
      partialDocument := by
  have hspace : Blanks [' '] := blanks_singleton (by decide)
  have hfeed : Blanks ['\n'] := blanks_singleton (by decide)
  have hparts : ∀ m ∈ [("ignore_identifiers", "true".toList)], partialSettings.policy.Member m :=
    List.forall_mem_singleton.mpr (.identifiers (.truth true))
  have hpolicy : ObjectText partialSettings.policy.Member ImagePolicy.keys ["ignore_identifiers"]
      "\x7b\"ignore_identifiers\" :true\x7d".toList :=
    .mk hparts (List.pairwise_singleton _ _)
      (.cons (.mk (spelled_escaped "ignore_identifiers".toList) hspace blanks_nil) .nil)
      (.cons blanks_nil (.nil blanks_nil))
  have hmembers : ∀ m ∈ [("x", "[-1.5E+3,\x7b\"\\uD800\":true\x7d]".toList),
      ("cpd", "\x7b\"ignore_identifiers\" :true\x7d".toList), ("comment_message", "null".toList)],
      partialSettings.Member ["ignore_identifiers"] m :=
    List.forall_mem_cons.mpr ⟨.other (by decide) wellFormed_unwanted,
      List.forall_mem_cons.mpr ⟨.policy hpolicy,
        List.forall_mem_singleton.mpr (.commentMessage .null)⟩⟩
  exact .mk blanks_nil hfeed (.mk hmembers (by decide)
    (.cons (.mk (spelled_escaped "x".toList) blanks_nil blanks_nil)
      (.cons (.mk spelled_cpd blanks_nil blanks_nil)
        (.cons (.mk (spelled_escaped "comment_message".toList) blanks_nil blanks_nil) .nil)))
    (.cons blanks_nil (.cons blanks_nil hspace (.cons blanks_nil blanks_nil (.nil blanks_nil)))))

/-- A directory with that document in it. -/
def partialFiles : FileSystem :=
  ⟨.full, [("s.json", .file (.ok partialDocument))], []⟩

/-- A command line with that settings file, and with a flag and a pattern of its own. -/
def partialArguments : Arguments :=
  ⟨["a.cpp"], some "s.json", some "b", none, none, [.ignoreLiterals]⟩

/-- One part of the policy comes from the document and the other from the command line, which has a
    pattern as well, and neither of them has a message or extensions. -/
theorem Settings.effective_partial :
    Settings.ofText partialDocument = .ok ⟨⟨false, true⟩, none, none, sourceExtensions⟩ ∧
      ∃ o, Options.ofArguments partialFiles partialArguments = .ok o ∧
        o.settings.policy.ignoreLiterals = true ∧ o.settings.policy.ignoreIdentifiers = true ∧
        o.settings.commentPattern = some "b" ∧ o.settings.commentMessage = none ∧
        o.settings.extensions = sourceExtensions := by
  have hread : partialFiles.readText ⟨"s.json"⟩ = .ok partialDocument := by cbv
  rcases Settings.effective partialSettings ["x", "cpd", "comment_message"]
    ["ignore_identifiers"] partialDocument document_partialDocument with ⟨htext, hoptions⟩
  rcases hoptions partialFiles partialArguments "s.json" rfl hread with ⟨o, ho, hfollows⟩
  exact ⟨htext, o, ho, hfollows.ignoreLiterals.mpr (Or.inr List.mem_cons_self),
    hfollows.ignoreIdentifiers.mpr (Or.inl rfl), hfollows.givenPattern _ rfl,
    hfollows.otherMessage rfl, hfollows.extensions⟩

end CloneScan

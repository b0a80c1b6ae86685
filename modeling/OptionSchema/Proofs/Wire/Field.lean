import OptionSchema.Proofs.Json.Read
import OptionSchema.Wire.Field

/-!
# What the fields of an object denote

Readers go through the members of an object one by one. Here the outcome is told from the entries
alone: an envelope or documentation field has to occur at most once with a tree of its type
(`readEnvelope_eq_ok_iff`, `readDoc_eq_ok_iff`), and the order of the fields does not matter.
-/

namespace OptionSchema.Wire

open Dictionary (valuesOf valuesOf_append_other valuesOf_append_self)
open Json (ReadError Tree entries)

variable {α : Type} {members : Members} {found : List (String × Tree)}

/-- A field that may be left out but not be repeated, and its value if it is there. -/
inductive Once (read : Tree → Except ReadError α) : List Tree → Option α → Prop where
  | absent : Once read [] none
  | present {tree : Tree} {value : α} : read tree = .ok value → Once read [tree] (some value)

section

variable {read : Tree → Except ReadError α} {trees : List Tree} {tree : Tree} {result : Option α}

theorem once_nil : Once read [] result ↔ result = none := by
  constructor
  · intro once
    cases once
    rfl
  · rintro rfl
    exact .absent

theorem once_none : Once read trees none ↔ trees = [] := by
  constructor
  · intro once
    cases once
    rfl
  · rintro rfl
    exact .absent

theorem once_append :
    Once read (trees ++ [tree]) result ↔
      trees = [] ∧ ∃ value, read tree = .ok value ∧ result = some value := by
  constructor
  · intro once
    cases trees with
    | nil =>
        cases once with
        | present readTree => exact ⟨rfl, _, readTree, rfl⟩
    | cons first rest =>
        generalize same : first :: rest ++ [tree] = all at once
        cases once <;> simp at same
  · rintro ⟨rfl, value, readTree, rfl⟩
    exact .present readTree

theorem once_singleton :
    Once read [tree] result ↔ ∃ value, read tree = .ok value ∧ result = some value := by
  rw [← List.nil_append [tree], once_append]
  exact and_iff_right rfl

/-- A field has one value at most. -/
theorem Once.eq {other : Option α} (once : Once read trees result) (once' : Once read trees other) :
    other = result := by
  cases once with
  | absent => exact once_nil.mp once'
  | present readTree =>
      obtain ⟨value, readTree', rfl⟩ := once_singleton.mp once'
      rw [readTree, Except.ok.injEq] at readTree'
      rw [readTree']

end

/-- Reading a record goes through the entries of the object. -/
theorem readRecord_eq_ok_iff {readMember : α → String → Tree → Except ReadError α}
    {record result : α} :
    readRecord readMember record members = .ok result ↔
      ∃ found, entries members = .ok found ∧
        found.foldlM (fun record entry => readMember record entry.1 entry.2) record =
          .ok result := by
  induction members generalizing record with
  | nil =>
      simp only [readRecord, Json.entries_nil, exists_eq_left, List.foldlM_nil, Outcome.pure_eq_ok,
        Except.ok.injEq]
  | cons member rest ih =>
      obtain ⟨key, value⟩ := member
      simp only [readRecord, Outcome.bind_eq_ok, ih, Json.entries_cons]
      constructor
      · rintro ⟨name, readKey, next, readFirst, found, readRest, folded⟩
        refine ⟨_, ⟨name, found, readKey, readRest, rfl⟩, ?_⟩
        rw [List.foldlM_cons, Outcome.bind_eq_ok]
        exact ⟨next, readFirst, folded⟩
      · rintro ⟨_, ⟨name, found, readKey, readRest, rfl⟩, folded⟩
        rw [List.foldlM_cons, Outcome.bind_eq_ok] at folded
        obtain ⟨next, readFirst, folded⟩ := folded
        exact ⟨name, readKey, next, readFirst, found, readRest, folded⟩

theorem foldlM_append_singleton {step : α → String × Tree → Except ReadError α} {record result : α}
    {entry : String × Tree} :
    (found ++ [entry]).foldlM step record = .ok result ↔
      ∃ before, found.foldlM step record = .ok before ∧ step before entry = .ok result := by
  simp [List.foldlM_append, Outcome.bind_eq_ok]

/-- A field that may not come again is read if it has not come before. -/
theorem readFresh_eq_ok_iff {β : Type} {again : Prop} [Decidable again] {fault : ReadError}
    {read : Except ReadError α} {set : α → β} {result : β} :
    (if again then .error fault else read.map set) = .ok result ↔
      ¬ again ∧ ∃ value, read = .ok value ∧ result = set value := by
  split
  · next isAgain => exact iff_of_false nofun fun fresh => fresh.1 isAgain
  · next fresh =>
      rw [Outcome.map_eq_ok, and_iff_right fresh]
      exact exists_congr fun _ => and_congr_right fun _ => eq_comm

/-! ## Envelopes -/

structure IsEnvelope (found : List (String × Tree)) (envelope : Envelope) : Prop where
  isOption : Once Tree.readBool (valuesOf "_option" found) envelope.isOption
  tag : Once Tree.readOptionalText (valuesOf "_type" found) envelope.tag

theorem isEnvelope_nil {envelope : Envelope} : IsEnvelope [] envelope ↔ envelope = ⟨none, none⟩ := by
  constructor
  · rintro ⟨isOption, tag⟩
    cases envelope
    cases isOption
    cases tag
    rfl
  · rintro rfl
    exact ⟨.absent, .absent⟩

section

variable {name : String} {tree : Tree} {before envelope : Envelope}

theorem readMember_option :
    before.readMember "_option" tree = .ok envelope ↔
      before.isOption = none ∧ ∃ value, tree.readBool = .ok value ∧
        envelope = ⟨some value, before.tag⟩ := by
  rw [Envelope.readMember, if_pos rfl, ← Option.not_isSome_iff_eq_none]
  exact readFresh_eq_ok_iff

theorem readMember_type :
    before.readMember "_type" tree = .ok envelope ↔
      before.tag = none ∧ ∃ value, tree.readOptionalText = .ok value ∧
        envelope = ⟨before.isOption, some value⟩ := by
  rw [Envelope.readMember, if_neg (by decide), if_pos rfl, ← Option.not_isSome_iff_eq_none]
  exact readFresh_eq_ok_iff

theorem readMember_other (notOption : name ≠ "_option") (notType : name ≠ "_type") :
    before.readMember name tree = .ok before := by
  rw [Envelope.readMember, if_neg notOption, if_neg notType]

theorem isEnvelope_append_option :
    IsEnvelope (found ++ [("_option", tree)]) envelope ↔
      ∃ value, tree.readBool = .ok value ∧ envelope.isOption = some value ∧
        IsEnvelope found ⟨none, envelope.tag⟩ := by
  constructor
  · rintro ⟨isOption, isTag⟩
    rw [valuesOf_append_self, once_append] at isOption
    rw [valuesOf_append_other (by decide)] at isTag
    obtain ⟨fresh, value, read, same⟩ := isOption
    exact ⟨value, read, same, once_none.mpr fresh, isTag⟩
  · rintro ⟨value, read, same, isOption, isTag⟩
    constructor
    · rw [valuesOf_append_self, once_append]
      exact ⟨once_none.mp isOption, value, read, same⟩
    · rw [valuesOf_append_other (by decide)]
      exact isTag

theorem isEnvelope_append_type :
    IsEnvelope (found ++ [("_type", tree)]) envelope ↔
      ∃ value, tree.readOptionalText = .ok value ∧ envelope.tag = some value ∧
        IsEnvelope found ⟨envelope.isOption, none⟩ := by
  constructor
  · rintro ⟨isOption, isTag⟩
    rw [valuesOf_append_other (by decide)] at isOption
    rw [valuesOf_append_self, once_append] at isTag
    obtain ⟨fresh, value, read, same⟩ := isTag
    exact ⟨value, read, same, isOption, once_none.mpr fresh⟩
  · rintro ⟨value, read, same, isOption, isTag⟩
    constructor
    · rw [valuesOf_append_other (by decide)]
      exact isOption
    · rw [valuesOf_append_self, once_append]
      exact ⟨once_none.mp isTag, value, read, same⟩

theorem isEnvelope_append_other (notOption : name ≠ "_option") (notType : name ≠ "_type") :
    IsEnvelope (found ++ [(name, tree)]) envelope ↔ IsEnvelope found envelope := by
  constructor
  · rintro ⟨isOption, isTag⟩
    rw [valuesOf_append_other notOption] at isOption
    rw [valuesOf_append_other notType] at isTag
    exact ⟨isOption, isTag⟩
  · rintro ⟨isOption, isTag⟩
    rw [← valuesOf_append_other notOption] at isOption
    rw [← valuesOf_append_other notType] at isTag
    exact ⟨isOption, isTag⟩

/-- One more entry is read into an envelope in which its field is missing so far, or does not matter. -/
theorem isEnvelope_append :
    IsEnvelope (found ++ [(name, tree)]) envelope ↔
      ∃ before, IsEnvelope found before ∧ before.readMember name tree = .ok envelope := by
  by_cases isOption : name = "_option"
  · subst isOption
    simp only [isEnvelope_append_option, readMember_option]
    constructor
    · rintro ⟨value, read, same, isEnvelope⟩
      exact ⟨_, isEnvelope, rfl, value, read, by rw [← same]⟩
    · rintro ⟨⟨_, type⟩, isEnvelope, rfl, value, read, rfl⟩
      exact ⟨value, read, rfl, isEnvelope⟩
  by_cases isTag : name = "_type"
  · subst isTag
    simp only [isEnvelope_append_type, readMember_type]
    constructor
    · rintro ⟨value, read, same, isEnvelope⟩
      exact ⟨_, isEnvelope, rfl, value, read, by rw [← same]⟩
    · rintro ⟨⟨flag, _⟩, isEnvelope, rfl, value, read, rfl⟩
      exact ⟨value, read, rfl, isEnvelope⟩
  · rw [isEnvelope_append_other isOption isTag]
    simp only [readMember_other isOption isTag, Except.ok.injEq, exists_eq_right]

end

/-- An object has an envelope if its keys can be read and each field of the envelope occurs at most
once with a tree of its type. -/
theorem readEnvelope_eq_ok_iff {envelope : Envelope} :
    readEnvelope members = .ok envelope ↔
      ∃ found, entries members = .ok found ∧ IsEnvelope found envelope := by
  unfold readEnvelope
  rw [readRecord_eq_ok_iff]
  refine exists_congr fun found => and_congr_right fun _ => ?_
  clear * -
  induction found using List.reverseRecOn generalizing envelope with
  | nil =>
      rw [List.foldlM_nil, Outcome.pure_eq_ok, isEnvelope_nil]
      exact eq_comm
  | append_singleton found entry ih =>
      rw [foldlM_append_singleton, isEnvelope_append]
      exact exists_congr fun before => and_congr_left fun _ => ih

/-! ## Documentation -/

namespace DocField

def Content : DocField → Type
  | .example | .default => Option Json.Value
  | .defaultText | .description | .descriptionClass => String
  | .visible | .internal | .readOnly => Bool

def get : (field : DocField) → Doc → field.Content
  | .example, doc => doc.example?
  | .default, doc => doc.default?
  | .defaultText, doc => doc.defaultText
  | .description, doc => doc.description
  | .descriptionClass, doc => doc.descriptionClass
  | .visible, doc => doc.visible
  | .internal, doc => doc.internal
  | .readOnly, doc => doc.readOnly

def set : (field : DocField) → field.Content → Doc → Doc
  | .example, value, doc => { doc with example? := value }
  | .default, value, doc => { doc with default? := value }
  | .defaultText, text, doc => { doc with defaultText := text }
  | .description, text, doc => { doc with description := text }
  | .descriptionClass, text, doc => { doc with descriptionClass := text }
  | .visible, flag, doc => { doc with visible := flag }
  | .internal, flag, doc => { doc with internal := flag }
  | .readOnly, flag, doc => { doc with readOnly := flag }

def readContent : (field : DocField) → Tree → Except ReadError field.Content
  | .example, tree | .default, tree => tree.readOptionalValue
  | .defaultText, tree | .description, tree | .descriptionClass, tree => tree.readText
  | .visible, tree | .internal, tree | .readOnly, tree => tree.readBool

theorem read_eq (field : DocField) (tree : Tree) (doc : Doc) :
    field.read tree doc = (field.readContent tree).map (field.set · doc) := by
  cases field <;> rfl

@[simp] theorem get_set_self (field : DocField) (content : field.Content) (doc : Doc) :
    field.get (field.set content doc) = content := by
  cases field <;> rfl

theorem get_set_other {field other : DocField} (apart : other ≠ field) (content : field.Content)
    (doc : Doc) : other.get (field.set content doc) = other.get doc := by
  cases field <;> cases other <;> first | rfl | exact absurd rfl apart

/-- Documentation is determined by the contents of its fields. -/
theorem ext {first second : Doc} (same : ∀ field : DocField, field.get first = field.get second) :
    first = second := by
  have example' : first.example? = second.example? := same .example
  have default' : first.default? = second.default? := same .default
  have defaultText : first.defaultText = second.defaultText := same .defaultText
  have description : first.description = second.description := same .description
  have descriptionClass : first.descriptionClass = second.descriptionClass := same .descriptionClass
  have visible : first.visible = second.visible := same .visible
  have internal : first.internal = second.internal := same .internal
  have readOnly : first.readOnly = second.readOnly := same .readOnly
  cases first
  cases second
  simp_all

theorem ofName?_name (field : DocField) : ofName? field.name = some field := by
  cases field <;> rfl

theorem name_injective {field other : DocField} (same : field.name = other.name) :
    field = other := by
  have found := ofName?_name field
  rw [same, ofName?_name, Option.some.injEq] at found
  exact found.symm

theorem name_ne_of_unknown {name : String} (unknown : ofName? name = none) (field : DocField) :
    name ≠ field.name := by
  rintro rfl
  rw [ofName?_name] at unknown
  cases unknown

theorem ofName?_eq_some_iff {name : String} {field : DocField} :
    ofName? name = some field ↔ field.name = name := by
  constructor
  · intro same
    have named := List.find?_some same
    simpa using named
  · rintro rfl
    exact ofName?_name field

/-- What the trees of a documentation field in an object say about documentation. -/
def Denotes (field : DocField) (trees : List Tree) (doc : Doc) : Prop :=
  ∃ content, Once field.readContent trees content ∧
    field.get doc = content.getD (field.get .empty)

section

variable {field : DocField} {trees : List Tree} {tree : Tree} {doc : Doc}

theorem denotes_nil : field.Denotes [] doc ↔ field.get doc = field.get .empty := by
  constructor
  · rintro ⟨content, once, same⟩
    cases once
    exact same
  · intro same
    exact ⟨none, .absent, same⟩

theorem denotes_append :
    field.Denotes (trees ++ [tree]) doc ↔
      trees = [] ∧ field.readContent tree = .ok (field.get doc) := by
  constructor
  · rintro ⟨content, once, same⟩
    obtain ⟨fresh, value, read, rfl⟩ := once_append.mp once
    exact ⟨fresh, by rw [same]; exact read⟩
  · rintro ⟨fresh, read⟩
    exact ⟨some (field.get doc), once_append.mpr ⟨fresh, _, read, rfl⟩, rfl⟩

/-- What trees say about documentation is a matter of their field alone. -/
theorem Denotes.of_get_eq {doc' : Doc} (denotes : field.Denotes trees doc)
    (same : field.get doc' = field.get doc) : field.Denotes trees doc' := by
  obtain ⟨content, once, get⟩ := denotes
  exact ⟨content, once, same.trans get⟩

end

end DocField

def DocField.HoldsValue : DocField → Prop
  | .example | .default => True
  | _ => False

def IsDoc (found : List (String × Tree)) (doc : Doc) : Prop :=
  ∀ field : DocField, field.Denotes (valuesOf field.name found) doc

/-- A documentation field can be read if it is left out or occurs once with a tree of its type. -/
def DocField.Readable (field : DocField) (trees : List Tree) : Prop :=
  ∃ content, Once field.readContent trees content

/-- An object has documentation if each of its documentation fields can be read. -/
theorem exists_isDoc_iff :
    (∃ doc, IsDoc found doc) ↔ ∀ field : DocField, field.Readable (valuesOf field.name found) := by
  constructor
  · rintro ⟨doc, isDoc⟩ field
    obtain ⟨content, once, -⟩ := isDoc field
    exact ⟨content, once⟩
  · intro readable
    choose content once using readable
    let get (field : DocField) : field.Content := (content field).getD (field.get .empty)
    refine ⟨⟨get .example, get .default, get .defaultText, get .description,
      get .descriptionClass, get .visible, get .internal, get .readOnly⟩, fun field => ?_⟩
    exact ⟨content field, once field, by cases field <;> rfl⟩

/-- Documentation that is being read: it is that of the entries read so far, and the fields that it
has found are those that occur in them. -/
structure IsDraft (found : List (String × Tree)) (draft : DocDraft) : Prop where
  isDoc : IsDoc found draft.doc
  mem_found : ∀ field, field ∈ draft.found ↔ valuesOf field.name found ≠ []

theorem isDraft_nil : IsDraft [] ⟨[], .empty⟩ := by
  constructor
  · exact fun field => DocField.denotes_nil.mpr rfl
  · exact fun field => by simp

/-- Reading one more entry keeps a draft up to date. -/
theorem IsDraft.append {draft next : DocDraft} (isDraft : IsDraft found draft) {name : String}
    {tree : Tree} (read : draft.readMember name tree = .ok next) :
    IsDraft (found ++ [(name, tree)]) next := by
  unfold DocDraft.readMember at read
  split at read
  · next unknown =>
      cases read
      have other (field : DocField) : name ≠ field.name := DocField.name_ne_of_unknown unknown field
      constructor
      · intro field
        rw [valuesOf_append_other (other field)]
        exact isDraft.isDoc field
      · intro field
        rw [valuesOf_append_other (other field)]
        exact isDraft.mem_found field
  · next field known =>
      obtain rfl := DocField.ofName?_eq_some_iff.mp known
      obtain ⟨fresh, doc, readField, rfl⟩ := readFresh_eq_ok_iff.mp read
      rw [isDraft.mem_found, not_not] at fresh
      rw [DocField.read_eq] at readField
      obtain ⟨content, readTree, rfl⟩ := Outcome.map_eq_ok.mp readField
      have other {field' : DocField} (apart : field' ≠ field) : field.name ≠ field'.name :=
        fun same => apart (DocField.name_injective same).symm
      constructor
      · intro field'
        by_cases same : field' = field
        · subst same
          rw [valuesOf_append_self, DocField.denotes_append, DocField.get_set_self]
          exact ⟨fresh, readTree⟩
        · rw [valuesOf_append_other (other same)]
          exact (isDraft.isDoc field').of_get_eq (DocField.get_set_other same content draft.doc)
      · intro field'
        by_cases same : field' = field
        · subst same
          simp [valuesOf_append_self]
        · rw [valuesOf_append_other (other same), List.mem_cons, isDraft.mem_found]
          exact or_iff_right same

/-- The drafts of the entries read so far, by induction from the last entry. -/
theorem isDraft_of_foldlM {draft : DocDraft}
    (folded : found.foldlM (fun draft entry => draft.readMember entry.1 entry.2)
      (⟨[], .empty⟩ : DocDraft) = .ok draft) : IsDraft found draft := by
  induction found using List.reverseRecOn generalizing draft with
  | nil =>
      rw [List.foldlM_nil, Outcome.pure_eq_ok] at folded
      subst folded
      exact isDraft_nil
  | append_singleton found entry ih =>
      obtain ⟨before, folded, read⟩ := foldlM_append_singleton.mp folded
      exact (ih folded).append read

/-- Entries that denote documentation are read as it. The last entry is taken away, and with it what
it says, which leaves the field as it is when it is absent. -/
theorem IsDoc.foldlM {doc : Doc} (isDoc : IsDoc found doc) :
    ∃ fields, found.foldlM (fun draft entry => draft.readMember entry.1 entry.2)
      (⟨[], .empty⟩ : DocDraft) = .ok ⟨fields, doc⟩ := by
  induction found using List.reverseRecOn generalizing doc with
  | nil =>
      have same : doc = .empty := DocField.ext fun field => DocField.denotes_nil.mp (isDoc field)
      subst same
      exact ⟨[], rfl⟩
  | append_singleton found entry ih =>
      obtain ⟨name, tree⟩ := entry
      cases known : DocField.ofName? name with
      | none =>
          have before : IsDoc found doc := by
            intro field
            have denotes := isDoc field
            rw [valuesOf_append_other (DocField.name_ne_of_unknown known field)] at denotes
            exact denotes
          obtain ⟨fields, folded⟩ := ih before
          refine ⟨fields, foldlM_append_singleton.mpr ⟨_, folded, ?_⟩⟩
          simp only [DocDraft.readMember, known]
      | some field =>
          have named := DocField.ofName?_eq_some_iff.mp known
          subst named
          have own := isDoc field
          rw [valuesOf_append_self, DocField.denotes_append] at own
          obtain ⟨fresh, readTree⟩ := own
          have before : IsDoc found (field.set (field.get .empty) doc) := by
            intro field'
            by_cases same : field' = field
            · subst same
              rw [fresh, DocField.denotes_nil, DocField.get_set_self]
            · have denotes := isDoc field'
              rw [valuesOf_append_other fun names => same (DocField.name_injective names).symm]
                at denotes
              exact denotes.of_get_eq (DocField.get_set_other same _ doc)
          obtain ⟨fields, folded⟩ := ih before
          have notFound : field ∉ fields := by
            rw [(isDraft_of_foldlM folded).mem_found field, not_not]
            exact fresh
          refine ⟨field :: fields, foldlM_append_singleton.mpr ⟨_, folded, ?_⟩⟩
          simp only [DocDraft.readMember, known, if_neg notFound, DocField.read_eq, readTree,
            Except.map]
          refine congrArg Except.ok (congrArg (DocDraft.mk (field :: fields)) ?_)
          refine DocField.ext fun field' => ?_
          by_cases same : field' = field
          · subst same
            exact DocField.get_set_self ..
          · rw [DocField.get_set_other same, DocField.get_set_other same]

/-- An object has documentation if its keys can be read and each documentation field occurs at most
once with a tree of its type. -/
theorem readDoc_eq_ok_iff {doc : Doc} :
    readDoc members = .ok doc ↔ ∃ found, entries members = .ok found ∧ IsDoc found doc := by
  unfold readDoc
  rw [Outcome.map_eq_ok]
  constructor
  · rintro ⟨draft, read, rfl⟩
    obtain ⟨found, readEntries, folded⟩ := readRecord_eq_ok_iff.mp read
    exact ⟨found, readEntries, (isDraft_of_foldlM folded).isDoc⟩
  · rintro ⟨found, readEntries, isDoc⟩
    obtain ⟨fields, folded⟩ := isDoc.foldlM
    exact ⟨_, readRecord_eq_ok_iff.mpr ⟨found, readEntries, folded⟩, rfl⟩

end OptionSchema.Wire

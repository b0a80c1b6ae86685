import OptionSchema.Proofs.Naming.Spelling

/-!
# Rendering a rendered name

A rendered name is one run of letters and digits, with an underscore in front if it starts with a
digit. Where the run is split again, each word starts with a capital letter or is the first one, so
rendering it changes nothing. Main statement: `exported_exported`.
-/

namespace OptionSchema.Naming

open Text (HasRuns hasRuns_singleton)

variable {name : String} {rest : List Char} {first : Char}

theorem toUpper_of_isUpper (upper : first.isUpper = true) :
    first.toUpper = first ∧ first.isDigit = false :=
  of_isWordChar (p := fun c => c.isUpper = true → c.toUpper = c ∧ c.isDigit = false) (by decide)
    (.inl (isAlphanum_of_isAlpha (isAlpha_of_isUpper first upper))) upper

theorem toUpper_of_isDigit (digit : first.isDigit = true) : first.toUpper = first :=
  of_isWordChar (p := fun c => c.isDigit = true → c.toUpper = c) (by decide)
    (.inl (isAlphanum_of_kind (.inr digit))) digit

/-- Letters and digits are one run. -/
theorem hasRuns_of_isAlphanum (alphanum : ∀ c ∈ first :: rest, c.isAlphanum = true) :
    HasRuns isApart [first :: rest] (first :: rest) := by
  apply hasRuns_singleton (List.cons_ne_nil first rest)
  intro c member
  exact isApart_of_isAlphanum (alphanum c member)

/-- The plain rules keep a rendering as it is. -/
theorem exported_of_isRendering (rendering : IsRendering name.toList) :
    Rules.plain.exported name = name := by
  have same : String.ofList name.toList = name := String.ofList_toList
  cases chars : name.toList with
  | nil =>
      rw [chars] at rendering
      cases rendering
  | cons first rest =>
      rw [chars] at rendering same
      rw [← same]
      cases rendering with
      | letter upper others =>
          have alphanum : ∀ c ∈ first :: rest, c.isAlphanum = true :=
            List.forall_mem_cons.mpr
              ⟨isAlphanum_of_isAlpha (isAlpha_of_isUpper first upper), others⟩
          obtain ⟨fixed, noDigit⟩ := toUpper_of_isUpper upper
          have has : HasRuns isApart [first :: rest] (String.ofList (first :: rest)).toList := by
            rw [String.toList_ofList]
            exact hasRuns_of_isAlphanum alphanum
          rw [exported_plain_eq has (List.forall_mem_singleton.mpr alphanum),
            List.flatMap_singleton, titled, fixed, startIdentifier_cons, noDigit]
          rfl
      | @digit first rest digit others =>
          have alphanum : ∀ c ∈ first :: rest, c.isAlphanum = true :=
            List.forall_mem_cons.mpr ⟨isAlphanum_of_kind (.inr digit), others⟩
          have has :
              HasRuns isApart [first :: rest] (String.ofList ('_' :: first :: rest)).toList := by
            rw [String.toList_ofList]
            exact .separator (by decide) (hasRuns_of_isAlphanum alphanum)
          rw [exported_plain_eq has (List.forall_mem_singleton.mpr alphanum),
            List.flatMap_singleton, titled, toUpper_of_isDigit digit, startIdentifier_cons, digit]
          rfl

/-- With the plain rules the exported name of an ASCII name is its own exported name. The names that
are their own exported names are those that look like a rendering: letters and digits that start with
a capital letter, or with a digit behind an underscore. -/
theorem exported_exported (ascii : IsAsciiText name) :
    Rules.plain.exported (Rules.plain.exported name) = Rules.plain.exported name ∧
      (Rules.plain.exported name = name ↔ IsRendering name.toList) := by
  have rendering : IsRendering (Rules.plain.exported name).toList := isRendering_exported rfl ascii
  refine ⟨exported_of_isRendering rendering, ?_, exported_of_isRendering⟩
  intro fixed
  rwa [fixed] at rendering

/-- A name that starts with a digit and has humps, an acronym and both separators. -/
theorem exported_exported_humps :
    IsAsciiText "2nd-httpServer_URLPath" ∧
      Rules.plain.exported "2nd-httpServer_URLPath" = "_2ndHttpServerURLPath" ∧
      Rules.plain.exported "_2ndHttpServerURLPath" = "_2ndHttpServerURLPath" := by
  have ascii : IsAsciiText "2nd-httpServer_URLPath" := by decide
  have rendered : Rules.plain.exported "2nd-httpServer_URLPath" = "_2ndHttpServerURLPath" := by
    decide +kernel
  have again := (exported_exported ascii).1
  rw [rendered] at again
  exact ⟨ascii, rendered, again⟩

end OptionSchema.Naming

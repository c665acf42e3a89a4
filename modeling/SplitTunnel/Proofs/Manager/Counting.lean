import SplitTunnel.Proofs.Manager.Managed

namespace SplitTunnel

/-!
# What a reconfiguration counts

A document lists packages in two categories.  Those with a rule among their texts
come into the tables and the others are omitted, so each listed package is counted
once: in the table of its category, or among the omitted.
-/

/-- The keys of a map are as many as it has entries. -/
theorem SortedMap.encard_keys
    {κ α : Type}
    [DecidableEq κ] [Ord κ] [Std.TransOrd κ] [Std.LawfulEqOrd κ]
    (map : SortedMap κ α) :
    {key | map.contains key = true}.encard = map.size := by
  have areKeys : {key | map.contains key = true} = (map.keys.toFinset : Set κ) := by
    ext key
    simp [SortedMap.mem_keys_iff]
  rw [areKeys, Set.encard_coe_eq_coe_finsetCard, List.toFinset_card_of_nodup map.nodup_keys,
    SortedMap.keys, List.length_map, SortedMap.size]

namespace Document

variable {document : Document} {category : Category} {package : String}

/-- One of the texts that a document lists for a package is a rule. -/
def HasRule (document : Document) (category : Category) (package : String) : Prop :=
  ∃ text ∈ document.texts category package, ∃ rule, Rule.parse text = .ok rule

/-- The packages that a document lists without a rule, each with its category. -/
def ruleless (document : Document) : Set (Category × String) :=
  {listing |
    (document.category listing.1).contains listing.2 = true ∧
      ¬document.HasRule listing.1 listing.2}

/-- A package that has a rule is listed. -/
theorem HasRule.isListed
    (hasRule : document.HasRule category package) :
    (document.category category).contains package = true := by
  by_contra unlisted
  obtain ⟨text, isText, _⟩ := hasRule
  rw [document.texts_of_unlisted (Bool.eq_false_iff.mpr unlisted)] at isText
  contradiction

/-- The packages of a category that have a rule are those of its table. -/
theorem encard_hasRule
    (document : Document)
    (category : Category) :
    {package | document.HasRule category package}.encard =
      ((Tables.ofDocument document).table category).size := by
  rw [← SortedMap.encard_keys]
  congr 1
  ext package
  exact (Tables.contains_ofDocument_iff.trans Rule.parseValid_ne_nil_iff).symm

/-- What is counted in both categories together is counted in each. -/
theorem encard_listings
    (counts : Category → String → Prop) :
    {listing : Category × String | counts listing.1 listing.2}.encard =
      {package | counts .excluded package}.encard +
        {package | counts .included package}.encard := by
  have inEither : {listing : Category × String | counts listing.1 listing.2} =
      Prod.mk .excluded '' {package | counts .excluded package} ∪
        Prod.mk .included '' {package | counts .included package} := by
    ext ⟨category, package⟩
    cases category <;> simp
  rw [inEither, Set.encard_union_eq, Function.Injective.encard_image (Prod.mk_right_injective _),
    Function.Injective.encard_image (Prod.mk_right_injective _)]
  rw [Set.disjoint_left]
  rintro _ ⟨_, _, rfl⟩ ⟨_, _, same⟩
  cases same

/-- The listed packages without a rule and those with one are all that are listed. -/
theorem encard_ruleless_add
    (document : Document) :
    document.ruleless.encard +
        (((Tables.ofDocument document).excluded.size : ℕ∞) +
          (Tables.ofDocument document).included.size) =
      (document.packageCount .excluded : ℕ∞) + document.packageCount .included := by
  have withRule := encard_listings document.HasRule
  have listed := encard_listings fun category package =>
    (document.category category).contains package = true
  rw [encard_hasRule, encard_hasRule] at withRule
  rw [SortedMap.encard_keys, SortedMap.encard_keys] at listed
  change _ = ((Tables.ofDocument document).excluded.size : ℕ∞) +
    (Tables.ofDocument document).included.size at withRule
  rw [packageCount, packageCount, ← listed, ← withRule]
  exact Set.encard_sdiff_add_encard_of_subset fun listing hasRule => HasRule.isListed hasRule

/-- There are as many packages without a rule as the tables leave of those that are listed. -/
theorem encard_ruleless
    (document : Document) :
    ∃ omitted : ℕ,
      document.ruleless.encard = omitted ∧
        omitted + ((Tables.ofDocument document).excluded.size +
            (Tables.ofDocument document).included.size) =
          document.packageCount .excluded + document.packageCount .included := by
  have accounted := document.encard_ruleless_add
  obtain ⟨omitted, isOmitted⟩ : ∃ omitted : ℕ, (omitted : ℕ∞) = document.ruleless.encard := by
    apply ENat.ne_top_iff_exists.mp
    intro isInfinite
    rw [isInfinite, top_add] at accounted
    exact ENat.natCast_ne_top _ accounted.symm
  rw [← isOmitted] at accounted
  exact ⟨omitted, isOmitted.symm, by exact_mod_cast accounted⟩

end Document

/-- A summary accounts for the packages that a document lists, as tables hold them. -/
structure Summary.Accounts (summary : Summary) (document : Document) (tables : Tables) : Prop where
  excluded : (summary.excluded : ℕ∞) = {package | document.HasRule .excluded package}.encard
  included : (summary.included : ℕ∞) = {package | document.HasRule .included package}.encard
  omitted : (summary.omitted : ℕ∞) = document.ruleless.encard
  total :
    summary.excluded + summary.included + summary.omitted =
      document.packageCount .excluded + document.packageCount .included
  excludedFit :
    tables.excluded.size ≤ document.packageCount .excluded + document.packageCount .included
  includedFit :
    tables.included.size ≤
      document.packageCount .excluded + document.packageCount .included - tables.excluded.size
  excludedTable : summary.excluded = tables.excluded.size
  includedTable : summary.included = tables.included.size

/--
The summary of a reconfiguration accounts for every listed package.

It gives the number of packages that have a rule in each category, which are the
sizes of the tables that are current from now on, and the number of entries without
a rule.  Together these are the packages that the document lists in the two
categories, and neither table is larger than what is left of them.
-/
theorem Manager.configureCounting_accounts
    (manager : Manager)
    (document : Document) :
    (manager.configureCounting document).1.Accounts document
      (manager.configureCounting document).2.runtime := by
  obtain ⟨omitted, isOmitted, total⟩ := document.encard_ruleless
  change (summarize document (.ofDocument document)).Accounts document (.ofDocument document)
  -- The numbers add up, so the subtractions that give the omitted packages lose nothing.
  have isRest : (summarize document (.ofDocument document)).omitted = omitted := by
    simp only [summarize]
    omega
  exact {
    excluded := (document.encard_hasRule .excluded).symm
    included := (document.encard_hasRule .included).symm
    omitted := by rw [isRest, isOmitted]
    total := by
      rw [isRest, Nat.add_comm]
      exact total
    excludedFit := by omega
    includedFit := by omega
    excludedTable := rfl
    includedTable := rfl
  }

end SplitTunnel

import Dripline.Swaps.CostGuard

/-!
# The charges of the cost guard

What `swaps/cost_guard.rs` adds up, charge by charge, each with the account whose lamports it
counts.
-/

namespace Dripline.Swaps.CostGuard

open List

open Dripline.Chain (systemProgramId)

/-! ## The charges -/

/-- A program that is neither the system program nor one that returns the rent. -/
def thirdParty (owner : String) : Bool := owner != systemProgramId && !ownerReturnsRent owner

/-- The lamports that an instruction takes from the wallet. -/
def spends (wallet : String) : SystemInstruction → ℕ
  | .createAccount source _ _ lamports => if source = some wallet then lamports else 0
  | .transfer source _ lamports => if source = some wallet then lamports else 0
  | .assign _ _ => 0

/-- The account that an instruction puts lamports into. -/
def pays : SystemInstruction → Option String
  | .createAccount _ newAccount _ _ => newAccount
  | .transfer _ destination _ => destination
  | .assign _ _ => none

/-- The lamports that a run takes from the wallet. -/
def spent (wallet : String) (run : List SystemInstruction) : ℕ := (run.map (spends wallet)).sum

/-- Lamports of an account that are charged to a program. -/
structure Charge where
  account : String
  program : String
  lamports : ℕ

/-- The charge of lamports whose account now has an owner. -/
def chargeOf (account owner : String) (lamports : ℕ) : List Charge :=
  if thirdParty owner then [⟨account, owner, lamports⟩] else []

/-- The charge that one turn of the loop makes. -/
def chargeAt (wallet : String) (books : Books) : SystemInstruction → List Charge
  | .createAccount source newAccount owner lamports =>
    if source ≠ some wallet then []
    else chargeOf (newAccount.getD "") (owner.getD systemProgramId) lamports
  | .transfer _ _ _ => []
  | .assign account owner =>
    match account, owner with
    | some account, some owner =>
      match take account books.funded with
      | none => []
      | some (lamports, _) => chargeOf account owner lamports
    | _, _ => []

/-- The charges that the loop makes. -/
def runCharges (wallet : String) : Books → List SystemInstruction → List Charge
  | _, [] => []
  | books, instruction :: run =>
    chargeAt wallet books instruction ++ runCharges wallet
      (assessInstruction wallet books instruction) run

/-- The charges of the accounts that the instructions left open. -/
def chainCharges (ownerOnChain : String → Option String) (unresolved : List (String × ℕ)) :
    List Charge :=
  unresolved.flatMap fun entry =>
    match ownerOnChain entry.1 with
    | some owner => chargeOf entry.1 owner entry.2
    | none => []

/-- The lamports charged, of all accounts or of one. -/
def chargedLamports (charges : List Charge) : ℕ := (charges.map (·.lamports)).sum

/-- The lamports of one account that are charged. -/
def chargedOf (account : String) (charges : List Charge) : ℕ :=
  chargedLamports (charges.filter (·.account = account))

@[simp] lemma chargedLamports_nil : chargedLamports [] = 0 := rfl

lemma chargedLamports_append (charges more : List Charge) :
    chargedLamports (charges ++ more) = chargedLamports charges + chargedLamports more := by
  simp [chargedLamports]

lemma chargedOf_append (account : String) (charges more : List Charge) :
    chargedOf account (charges ++ more) = chargedOf account charges + chargedOf account more := by
  simp [chargedOf, chargedLamports]

lemma chargedOf_chargeOf (account other owner : String) (lamports : ℕ) :
    chargedOf account (chargeOf other owner lamports) =
      if other = account ∧ thirdParty owner = true then lamports else 0 := by
  unfold chargeOf
  by_cases howner : thirdParty owner = true
  · by_cases hsame : other = account <;> simp [chargedOf, chargedLamports, howner, hsame]
  · simp [chargedOf, howner]

lemma chargedLamports_chargeOf (account owner : String) (lamports : ℕ) :
    chargedLamports (chargeOf account owner lamports) = if thirdParty owner then lamports else 0 := by
  unfold chargeOf
  split <;> simp [chargedLamports]

/-- The charges that the guard makes in a run. -/
def charges (wallet : String) (onChain : String → Option String) (run : List SystemInstruction) :
    List Charge :=
  runCharges wallet .empty run ++ chainCharges onChain (assessRun wallet .empty run).funded

/-! ## The sum of the charges -/

/-- The lamports of a list of entries. -/
def totalOf (entries : List (String × ℕ)) : ℕ := (entries.map (·.2)).sum

@[simp] lemma totalOf_nil : totalOf [] = 0 := rfl

@[simp] lemma totalOf_cons (entry : String × ℕ) (entries : List (String × ℕ)) :
    totalOf (entry :: entries) = entry.2 + totalOf entries := by
  simp [totalOf]

@[simp] lemma totalOf_append (entries more : List (String × ℕ)) :
    totalOf (entries ++ more) = totalOf entries + totalOf more := by
  simp [totalOf]

lemma totalOf_charge (program : String) {lamports : ℕ} {rows : List (String × ℕ)}
    (h : totalOf rows + lamports < 2 ^ 64) :
    totalOf (charge program lamports rows) = totalOf rows + lamports := by
  induction rows with
  | nil =>
    rw [totalOf_nil] at h
    simp only [charge, totalOf_cons, totalOf_nil]
    omega
  | cons row rows ih =>
    rw [totalOf_cons] at h
    unfold charge
    split
    · have hmod : (row.2 + lamports) % 2 ^ 64 = row.2 + lamports := Nat.mod_eq_of_lt (by omega)
      rw [totalOf_cons, totalOf_cons, hmod]
      omega
    · rw [totalOf_cons, totalOf_cons, ih (by omega)]
      omega

variable {entries : List (String × ℕ)} {lamports : ℕ}

lemma totalOf_fund (account : String) (h : totalOf entries + lamports < 2 ^ 64) :
    totalOf (fund account lamports entries) = totalOf entries + lamports := by
  induction entries with
  | nil => simp [fund]
  | cons entry entries ih =>
    rw [totalOf_cons] at h
    unfold fund
    split
    · simp only [totalOf_cons, saturatingAdd]
      omega
    · rw [totalOf_cons, totalOf_cons, ih (by omega)]
      omega

variable {account : String} {rest : List (String × ℕ)}

lemma totalOf_take (h : take account entries = some (lamports, rest)) :
    totalOf entries = lamports + totalOf rest := by
  induction entries generalizing rest with
  | nil => cases h
  | cons entry entries ih =>
    unfold take at h
    split at h
    · obtain ⟨rfl, rfl⟩ : entry.2 = lamports ∧ entries = rest := by simpa using h
      rfl
    · obtain ⟨⟨taken, left⟩, htaken, h⟩ := Option.map_eq_some_iff.mp h
      obtain ⟨rfl, rfl⟩ : taken = lamports ∧ entry :: left = rest := by simpa using h
      rw [totalOf_cons, totalOf_cons, ih htaken]
      omega

lemma settle_spec (books : Books) (account owner : String) (lamports : ℕ)
    (h : totalOf books.byProgram + lamports < 2 ^ 64) :
    (books.settle owner lamports).funded = books.funded ∧
      totalOf (books.settle owner lamports).byProgram =
        totalOf books.byProgram + chargedLamports (chargeOf account owner lamports) := by
  rw [chargedLamports_chargeOf]
  unfold Books.settle thirdParty
  by_cases hrent : ownerReturnsRent owner = true
  · simp [hrent]
  · by_cases hsystem : owner = systemProgramId
    · subst hsystem
      simp [hrent]
    · simp [hrent, hsystem, totalOf_charge owner h]

lemma assessInstruction_total (wallet : String) (books : Books) (instruction : SystemInstruction)
    (h : totalOf books.byProgram + totalOf books.funded + spends wallet instruction < 2 ^ 64) :
    totalOf (assessInstruction wallet books instruction).byProgram =
        totalOf books.byProgram + chargedLamports (chargeAt wallet books instruction) ∧
      totalOf (assessInstruction wallet books instruction).byProgram +
          totalOf (assessInstruction wallet books instruction).funded ≤
        totalOf books.byProgram + totalOf books.funded + spends wallet instruction := by
  have hcharged : ∀ account owner lamports, chargedLamports (chargeOf account owner lamports) ≤
      lamports := by
    intro account owner lamports
    rw [chargedLamports_chargeOf]
    split <;> omega
  have hplain : ∀ account lamports, chargedLamports (chargeOf account systemProgramId lamports) =
      0 := by
    intro account lamports
    simp [chargedLamports_chargeOf, thirdParty]
  cases instruction with
  | createAccount source newAccount owner lamports =>
    simp only [assessInstruction, chargeAt, spends] at h ⊢
    by_cases hsource : source = some wallet
    · simp only [hsource, ne_eq, not_true_eq_false, if_false, if_true] at h ⊢
      cases owner with
      | none =>
        simp only [Option.getD_none, hplain, add_zero]
        split
        · simp
          omega
        · simp
      | some owner =>
        simp only [Option.getD_some]
        by_cases hsystem : owner = systemProgramId
        · simp only [hsystem, if_true, hplain, add_zero]
          split
          · simp
            omega
          · simp
        · simp only [hsystem, if_false]
          obtain ⟨hfunded, htotal⟩ :=
              settle_spec books (newAccount.getD "") owner lamports (by omega)
          have := hcharged (newAccount.getD "") owner lamports
          rw [hfunded, htotal]
          omega
    · simp [hsource]
  | transfer source destination lamports =>
    simp only [assessInstruction, chargeAt, spends, chargedLamports_nil, add_zero] at h ⊢
    by_cases hsource : source = some wallet
    · simp only [hsource, ne_eq, not_true_eq_false, if_false, if_true] at h ⊢
      cases destination with
      | none => simp
      | some destination =>
        simp only
        split
        · simp
        · have hfund : totalOf (fund destination lamports books.funded) =
              totalOf books.funded + lamports :=
            totalOf_fund destination (by omega)
          refine ⟨rfl, ?_⟩
          simp only
          omega
    · simp [hsource]
  | assign account owner =>
    simp only [spends, add_zero] at h
    cases account with
    | none => simp [assessInstruction, chargeAt, spends]
    | some account =>
      cases owner with
      | none => simp [assessInstruction, chargeAt, spends]
      | some owner =>
        simp only [assessInstruction, chargeAt, spends, add_zero]
        cases htake : take account books.funded with
        | none => simp
        | some taken =>
          obtain ⟨lamports, rest⟩ := taken
          have hrest := totalOf_take htake
          obtain ⟨hfunded, htotal⟩ :=
              settle_spec { books with funded := rest } account owner lamports
            (by simp only; omega)
          have := hcharged account owner lamports
          refine ⟨htotal, ?_⟩
          simp only [hfunded, htotal]
          omega

lemma assessRun_total (wallet : String) (books : Books) (run : List SystemInstruction)
    (h : totalOf books.byProgram + totalOf books.funded + spent wallet run < 2 ^ 64) :
    totalOf (assessRun wallet books run).byProgram =
        totalOf books.byProgram + chargedLamports (runCharges wallet books run) ∧
      totalOf (assessRun wallet books run).byProgram + totalOf (assessRun wallet books run).funded ≤
        totalOf books.byProgram + totalOf books.funded + spent wallet run := by
  induction run generalizing books with
  | nil => simp [assessRun, runCharges]
  | cons instruction run ih =>
    simp only [spent, map_cons, sum_cons] at h ⊢
    obtain ⟨htotal, hle⟩ := assessInstruction_total wallet books instruction (by omega)
    obtain ⟨hrun, hrunLe⟩ := ih (assessInstruction wallet books instruction) (by unfold spent; omega)
    rw [runCharges, chargedLamports_append]
    simp only [assessRun, foldl_cons, spent] at hrun hrunLe ⊢
    omega

lemma finalise_total (assessment : SwapCostAssessment) (byProgram : List (String × ℕ))
    (h : assessment.unrecoverableLamports + totalOf byProgram < 2 ^ 64) :
    (finalise assessment byProgram).unrecoverableLamports =
      assessment.unrecoverableLamports + totalOf byProgram := by
  have hfold : ∀ (rows : List (String × ℕ)) (total : ℕ), total + totalOf rows < 2 ^ 64 →
      rows.foldl (fun total row => saturatingAdd total row.2) total = total + totalOf rows := by
    intro rows
    induction rows with
    | nil => simp
    | cons row rows ih =>
      intro total hfits
      rw [totalOf_cons] at hfits ⊢
      have hadd : saturatingAdd total row.2 = total + row.2 := by
        unfold saturatingAdd
        omega
      rw [foldl_cons, hadd, ih _ (by omega), Nat.add_assoc]
  have hsame : totalOf (byProgram.mergeSort chargedBefore) = totalOf byProgram :=
    ((mergeSort_perm byProgram chargedBefore).map _).sum_eq
  simp only [finalise]
  rw [hfold _ _ (by omega), hsame]

/-! ## The sum over the accounts that were left open -/

lemma lookup_of_graph {onChain : String → Option String} {owners : List (String × String)}
    (hgraph : ∀ pair ∈ owners, onChain pair.1 = some pair.2)
    (hcovers : ∀ owner, onChain account = some owner → (account, owner) ∈ owners) :
    owners.lookup account = onChain account := by
  induction owners with
  | nil =>
    cases howner : onChain account with
    | none => rfl
    | some owner => exact absurd (hcovers owner howner) (by simp)
  | cons pair owners ih =>
    obtain ⟨key, owner⟩ := pair
    by_cases hkey : account = key
    · subst hkey
      simp [hgraph _ mem_cons_self]
    · have hne : (account == key) = false := by simpa using hkey
      rw [lookup_cons, hne]
      refine ih (fun pair hpair => hgraph pair (mem_cons_of_mem _ hpair)) fun other hother => ?_
      have hmem := hcovers other hother
      simpa [hkey] using hmem

variable {entry : String × ℕ} {unresolved : List (String × ℕ)}

lemma ownerOf_resolveOwners {parse : String → Option Pubkey}
    {getMultipleAccounts : List Pubkey → Option (List (Option Pubkey))}
    {onChain : String → Option String} (hparse : ∀ entry ∈ unresolved, parse entry.1 = some entry.1)
    (hanswer : ∀ keys, getMultipleAccounts keys = some (keys.map onChain))
    (hentry : entry ∈ unresolved) :
    ownerOf (resolveOwners parse getMultipleAccounts unresolved) entry.1 = onChain entry.1 := by
  have hkeys : (unresolved.filterMap fun entry => parse entry.1) = unresolved.map (·.1) := by
    rw [filterMap_congr hparse]
    exact congrFun filterMap_eq_map unresolved
  have hne : unresolved.map (·.1) ≠ [] := by simpa using ne_nil_of_mem hentry
  have hmem : ∀ pair : String × String, pair ∈ resolveOwners parse getMultipleAccounts unresolved ↔
      pair.1 ∈ unresolved.map (·.1) ∧ onChain pair.1 = some pair.2 := by
    intro pair
    have hzip := zip_map' (f := fun key => key) (g := onChain) (l := unresolved.map (·.1))
    rw [map_id'] at hzip
    simp only [resolveOwners, hkeys, if_neg hne, hanswer, hzip, mem_filterMap, mem_map,
      Option.map_eq_some_iff]
    constructor
    · rintro ⟨_, ⟨key, hkey, rfl⟩, owner, howner, rfl⟩
      exact ⟨hkey, howner⟩
    · rintro ⟨hkey, howner⟩
      exact ⟨_, ⟨pair.1, hkey, rfl⟩, pair.2, howner, rfl⟩
  refine lookup_of_graph (fun pair hpair => ?_) fun owner howner => ?_
  · exact ((hmem pair).mp (mem_reverse.mp hpair)).2
  · exact mem_reverse.mpr ((hmem _).mpr ⟨mem_map_of_mem hentry, howner⟩)

variable {owners : List (Pubkey × Pubkey)}

lemma attributeEntry_total {onChain : String → Option String}
    (howners : ∀ entry ∈ unresolved, ownerOf owners entry.1 = onChain entry.1) (books : Books)
    (h : totalOf books.byProgram + totalOf unresolved < 2 ^ 64) :
    totalOf (unresolved.foldl (attributeEntry owners) books).byProgram =
        totalOf books.byProgram + chargedLamports (chainCharges onChain unresolved) ∧
      chargedLamports (chainCharges onChain unresolved) ≤ totalOf unresolved := by
  induction unresolved generalizing books with
  | nil => simp [chainCharges]
  | cons entry unresolved ih =>
    rw [totalOf_cons] at h ⊢
    have hrest :=
        fun books => ih (fun other hother => howners other (mem_cons_of_mem _ hother)) books
    have hsplit : chainCharges onChain (entry :: unresolved) =
        (match onChain entry.1 with
          | some owner => chargeOf entry.1 owner entry.2
          | none => []) ++ chainCharges onChain unresolved := rfl
    rw [hsplit, chargedLamports_append, foldl_cons, attributeEntry,
      howners entry mem_cons_self]
    cases onChain entry.1 with
    | none =>
      simp only [chargedLamports_nil]
      have := hrest books (by omega)
      omega
    | some owner =>
      simp only
      obtain ⟨_, htotal⟩ := settle_spec books entry.1 owner entry.2 (by omega)
      have hcharge : chargedLamports (chargeOf entry.1 owner entry.2) ≤ entry.2 := by
        rw [chargedLamports_chargeOf]
        split <;> omega
      have := hrest (books.settle owner entry.2) (by omega)
      omega

lemma attributeUnresolved_total {onChain : String → Option String} {assessment : SwapCostAssessment}
    (howners : ∀ entry ∈ assessment.unresolved, ownerOf owners entry.1 = onChain entry.1)
    (h : assessment.unrecoverableLamports + totalOf assessment.unresolved < 2 ^ 64) :
    (attributeUnresolved assessment owners).unrecoverableLamports =
      assessment.unrecoverableLamports + chargedLamports
        (chainCharges onChain assessment.unresolved) := by
  obtain ⟨htotal, hle⟩ := attributeEntry_total howners ⟨assessment.recoverableRentLamports, [], []⟩
    (by simp only [totalOf_nil]; omega)
  simp only [totalOf_nil, zero_add] at htotal
  unfold attributeUnresolved
  simp only
  split
  · rename_i existing _
    have hmerged := @totalOf_charge existing assessment.unrecoverableLamports
      (assessment.unresolved.foldl (attributeEntry owners)
        ⟨assessment.recoverableRentLamports, [], []⟩).byProgram (by omega)
    rw [finalise_total _ _ (by simp only; omega)]
    simp only
    omega
  · rw [finalise_total _ _ (by simp only; omega)]
    simp only
    omega

/-! ## The guard -/

lemma funded_settle (books : Books) (owner : String) (lamports : ℕ) :
    (books.settle owner lamports).funded = books.funded := by
  unfold Books.settle
  split
  · rfl
  · split <;> rfl

lemma assessInstruction_create (wallet : String) (books : Books) (newAccount owner : Option String)
    (lamports : ℕ) :
    assessInstruction wallet books (.createAccount (some wallet) newAccount owner lamports) =
      if owner.getD systemProgramId = systemProgramId then
        if 0 < lamports ∧ newAccount.getD "" ≠ "" then
          { books with funded := books.funded ++ [(newAccount.getD "", lamports)] }
        else books
      else books.settle (owner.getD systemProgramId) lamports := by
  cases owner <;> simp [assessInstruction]

lemma mem_fund (h : entry ∈ fund account lamports entries) :
    entry.1 = account ∨ entry.1 ∈ entries.map (·.1) := by
  induction entries with
  | nil =>
    obtain rfl : entry = (account, lamports) := by simpa [fund] using h
    exact .inl rfl
  | cons head entries ih =>
    unfold fund at h
    split at h
    · rcases mem_cons.mp h with rfl | h
      · exact .inl rfl
      · exact .inr (mem_map_of_mem (mem_cons_of_mem _ h))
    · rcases mem_cons.mp h with rfl | h
      · exact .inr (by simp)
      · exact (ih h).imp id fun hmem => mem_cons_of_mem _ hmem

lemma take_subset (h : take account entries = some (lamports, rest)) : rest ⊆ entries := by
  induction entries generalizing rest with
  | nil => cases h
  | cons entry entries ih =>
    unfold take at h
    split at h
    · obtain ⟨rfl, rfl⟩ : entry.2 = lamports ∧ entries = rest := by simpa using h
      exact subset_cons_self _ _
    · obtain ⟨⟨taken, left⟩, htaken, h⟩ := Option.map_eq_some_iff.mp h
      obtain ⟨rfl, rfl⟩ : taken = lamports ∧ entry :: left = rest := by simpa using h
      exact cons_subset_cons _ (ih htaken)

lemma funded_assessInstruction (wallet : String) (books : Books) (instruction : SystemInstruction)
    (h : entry ∈ (assessInstruction wallet books instruction).funded) :
    entry.1 ∈ books.funded.map (·.1) ∨ pays instruction = some entry.1 := by
  have hkeep : entry ∈ books.funded → entry.1 ∈ books.funded.map (·.1) := mem_map_of_mem
  cases instruction with
  | createAccount source newAccount owner lamports =>
    by_cases hsource : source = some wallet
    · subst hsource
      rw [assessInstruction_create] at h
      split at h
      · split at h
        · rename_i hopened
          rcases mem_append.mp h with hmem | hmem
          · exact .inl (hkeep hmem)
          · obtain rfl : entry = (newAccount.getD "", lamports) := by simpa using hmem
            refine .inr ?_
            cases newAccount with
            | none => exact absurd rfl hopened.2
            | some name => rfl
        · exact .inl (hkeep h)
      · rw [funded_settle] at h
        exact .inl (hkeep h)
    · simp only [assessInstruction, hsource, ne_eq, not_false_eq_true, if_true] at h
      exact .inl (hkeep h)
  | transfer source destination lamports =>
    simp only [assessInstruction] at h
    split at h
    · exact .inl (hkeep h)
    · split at h
      · exact .inl (hkeep h)
      · split at h
        · exact .inl (hkeep h)
        · exact (mem_fund h).symm.imp id fun hself => congrArg some hself.symm
  | assign account owner =>
    simp only [assessInstruction] at h
    split at h
    · split at h
      · exact .inl (hkeep h)
      · rename_i htake
        rw [funded_settle] at h
        exact .inl (hkeep (take_subset htake h))
    · exact .inl (hkeep h)

lemma funded_assessRun (wallet : String) (run : List SystemInstruction) :
    ∀ entry ∈ (assessRun wallet .empty run).funded, ∃ instruction ∈ run,
      pays instruction = some entry.1 := by
  have hrun : ∀ (run : List SystemInstruction) (books : Books),
      ∀ entry ∈ (assessRun wallet books run).funded,
        entry.1 ∈ books.funded.map (·.1) ∨ ∃ instruction ∈ run, pays instruction = some entry.1 := by
    intro run
    induction run with
    | nil => exact fun books entry hentry => .inl (mem_map_of_mem hentry)
    | cons instruction run ih =>
      intro books entry hentry
      rcases ih _ entry hentry with hmem | ⟨later, hlater, hpays⟩
      · obtain ⟨other, hother, hsame⟩ := mem_map.mp hmem
        rw [← hsame]
        exact (funded_assessInstruction wallet books instruction hother).imp id
          fun hpays => ⟨instruction, mem_cons_self, hpays⟩
      · exact .inr ⟨later, mem_cons_of_mem _ hlater, hpays⟩
  intro entry hentry
  exact (hrun run .empty entry hentry).resolve_left (by simp [Books.empty])

lemma unrecoverable_eq {wallet : String} {parse : String → Option Pubkey}
    {getMultipleAccounts : List Pubkey → Option (List (Option Pubkey))}
    {onChain : String → Option String}
    {groups : List Group} (hfits : spent wallet (systemInstructions groups) < 2 ^ 64)
    (hparse : ∀ instruction ∈ systemInstructions groups, ∀ account, pays instruction = some account →
      parse account = some account)
    (hanswer : ∀ keys, getMultipleAccounts keys = some (keys.map onChain)) :
    (assessedCost parse getMultipleAccounts wallet groups).unrecoverableLamports =
      chargedLamports (charges wallet onChain (systemInstructions groups)) := by
  obtain ⟨htotal, hle⟩ := assessRun_total wallet .empty (systemInstructions groups)
    (by simpa [Books.empty] using hfits)
  simp only [Books.empty, totalOf_nil, zero_add] at htotal hle
  have hassessed : (assessInnerInstructions wallet groups).unrecoverableLamports =
      chargedLamports (runCharges wallet .empty (systemInstructions groups)) := by
    unfold assessInnerInstructions
    simp only
    rw [finalise_total _ _ (by simp only [Books.empty]; omega)]
    simp only [Books.empty, zero_add]
    exact htotal
  have hopen : (assessInnerInstructions wallet groups).unresolved =
      (assessRun wallet .empty (systemInstructions groups)).funded := rfl
  unfold assessedCost charges
  simp only [chargedLamports_append]
  rw [← hopen]
  split
  · rename_i hnone
    rw [hnone, hassessed]
    rfl
  · rw [attributeUnresolved_total, hassessed]
    · intro entry hentry
      refine ownerOf_resolveOwners (fun other hother => ?_) hanswer hentry
      obtain ⟨instruction, hinstruction, hpays⟩ := funded_assessRun wallet _ other hother
      exact hparse instruction hinstruction _ hpays
    · rw [hassessed, hopen]
      simp only [Books.empty] at htotal hle ⊢
      omega

end Dripline.Swaps.CostGuard

import IronVault.Client.Symbolic
import IronVault.Program.Impl.Raw
import IronVault.Program.Lemmas.Custody
import IronVault.Program.Lemmas.Frame

/-!
This module contains that the bytes of an account never mean two things. The model keeps one map per
account type. On the ledger there are only addresses with an owner and bytes, and every handler
deserializes whatever it is given. In every reachable state both views agree.
-/

namespace IronVault

variable {Pubkey : Type} [DecidableEq Pubkey] [Solana Pubkey]

section Unique

def AccountType.seeds : (type : AccountType) → type.Data Pubkey → Seeds Pubkey
  | .protocolConfig, _ => .protocol
  | .escrow, value => .escrow value.maker value.escrowId
  | .vault, value => .vault value.namespaceAuthority value.vaultId
  | .vaultAsset, value => .vaultAsset value.vault value.mint
  | .roleAssignment, value => .role value.vault value.principal
  | .withdrawalRequest, value => .withdrawal value.vault value.withdrawalId

omit [DecidableEq Pubkey] [Solana Pubkey] in
theorem AccountType.eq_of_seeds_eq {type type' : AccountType} {value : type.Data Pubkey}
    {value' : type'.Data Pubkey} (h : type.seeds value = type'.seeds value') : type = type' := by
  cases type <;> cases type' <;> first | rfl | cases h

namespace Reachable

variable {s : State Pubkey} (h : Reachable s)

include h

theorem lookup_canonical {type : AccountType} {key : Pubkey} {value : type.Data Pubkey}
    (hvalue : s.lookup type key = some value) : ∃ bump, Canonical key (type.seeds value) bump := by
  cases type with
  | protocolConfig => exact ⟨_, h.protocolConfig hvalue⟩
  | escrow => exact ⟨_, (h.escrow hvalue).canonical⟩
  | vault => exact ⟨_, (h.vault hvalue).canonical⟩
  | vaultAsset => exact ⟨_, (h.vaultAsset hvalue).canonical⟩
  | roleAssignment => exact ⟨_, h.roleAssignment hvalue⟩
  | withdrawalRequest => exact ⟨_, (h.withdrawalRequest hvalue).canonical⟩

theorem lookup_unique {type type' : AccountType} {key : Pubkey} {value : type.Data Pubkey}
    {value' : type'.Data Pubkey} (hvalue : s.lookup type key = some value)
    (hvalue' : s.lookup type' key = some value') : type = type' := by
  obtain ⟨bump, hcanonical⟩ := h.lookup_canonical hvalue
  obtain ⟨bump', hcanonical'⟩ := h.lookup_canonical hvalue'
  exact AccountType.eq_of_seeds_eq
    (address_eq_of_create hcanonical.create_eq hcanonical'.key_eq)

theorem token_seeds {key : Pubkey} (htoken : s.token key ≠ none) (hkey : IsProgramAddress key) :
    (∃ e, key = address (.escrowToken e)) ∨ ∃ v m, key = address (.vaultToken v m) := by
  induction h using Reachable.induction with
  | empty => exact absurd rfl htoken
  | step s a s' hs hstep ih =>
    cases hbefore : s.token key with
    | some account => exact ih (by simp [hbefore])
    | none =>
      obtain ⟨ix, now, account, rfl, hopened⟩ := hstep.opened_of_token hs hkey hbefore htoken
      obtain ⟨event, -, heffect⟩ := hstep.effect
      cases heffect with
      | createEscrow _ h =>
        cases hopened
        exact .inl ⟨_, h.tokenKey_eq⟩
      | registerAsset h =>
        cases hopened
        exact .inr ⟨_, _, h.tokenKey_eq⟩
      | _ => cases hopened

theorem mint_none {key : Pubkey} (hkey : IsProgramAddress key) : s.mint key = none := by
  induction h using Reachable.induction with
  | empty => rfl
  | step s a s' hs hstep ih =>
    cases a with
    | thirdParty =>
      cases hstep with
      | thirdParty hthird => exact hthird.mint_none hkey ih
    | instruction ix now => rw [(hstep.ledger hs).mint_eq, ih]

theorem lookup_foreign {type : AccountType} {key : Pubkey} {value : type.Data Pubkey}
    (hvalue : s.lookup type key = some value) : s.token key = none ∧ s.mint key = none := by
  obtain ⟨bump, hcanonical⟩ := h.lookup_canonical hvalue
  refine ⟨?_, h.mint_none hcanonical.isProgramAddress⟩
  by_contra htoken
  rcases h.token_seeds htoken hcanonical.isProgramAddress with ⟨e, hkey⟩ | ⟨v, m, hkey⟩
  . have hseeds := address_eq_of_create hcanonical.create_eq hkey
    cases type <;> cases hseeds
  . have hseeds := address_eq_of_create hcanonical.create_eq hkey
    cases type <;> cases hseeds

end Reachable

end Unique

section Represents

variable [Borsh Pubkey] (sha256 : String → Vector UInt8 32) (programId : Pubkey)

/--
The ledger holds the accounts of the program as Anchor writes them. Accounts of other programs may
hold any bytes, also those of an account of this one.
-/
structure Represents (raw : Pubkey → Option (RawAccount Pubkey)) (s : State Pubkey) : Prop where
  data {type : AccountType} {key : Pubkey} {value : type.Data Pubkey} :
    s.lookup type key = some value →
      raw key = some ⟨programId, accountData sha256 type type.space value⟩
  owned {key : Pubkey} {account : RawAccount Pubkey} : raw key = some account →
    account.owner = programId → ∃ type value, s.lookup type key = some value

omit [DecidableEq Pubkey] [Solana Pubkey] in
theorem tryDeserialize_accountData {type type' : AccountType} {value : type.Data Pubkey}
    {value' : type'.Data Pubkey}
    (hsha : Function.Injective fun type : AccountType => type.discriminator sha256)
    (h : tryDeserialize sha256 type' (accountData sha256 type type.space value) = some value') :
    type = type' := by
  simp only [tryDeserialize, accountData, List.append_assoc, Option.ite_none_right_eq_some] at h
  have hdiscriminator : type.discriminator sha256 = type'.discriminator sha256 := by
    rw [← h.1, List.take_left' (type.length_discriminator sha256)]
  exact hsha hdiscriminator

omit [DecidableEq Pubkey] [Solana Pubkey] in
theorem tryDeserialize_accountData_self (type : AccountType) (value : type.Data Pubkey) :
    tryDeserialize sha256 type (accountData sha256 type type.space value) = some value := by
  have hlength := type.length_discriminator sha256
  simp only [tryDeserialize, accountData, List.append_assoc, List.take_left' hlength, if_true,
    List.drop_left' hlength, Borsh.deserialize_append, Option.map_some]

namespace Represents

variable {sha256 programId} {raw : Pubkey → Option (RawAccount Pubkey)} {s : State Pubkey}

omit [Solana Pubkey] in
theorem tryFrom_eq (h : Represents sha256 programId raw s)
    (hsha : Function.Injective fun type : AccountType => type.discriminator sha256)
    (type : AccountType) (key : Pubkey) :
    RawAccount.tryFrom sha256 programId type (raw key) = s.lookup type key := by
  cases hvalue : s.lookup type key with
  | some value =>
    rw [h.data hvalue]
    simp only [RawAccount.tryFrom, Option.bind_eq_bind, Option.bind_some, if_true]
    exact tryDeserialize_accountData_self sha256 type value
  | none =>
    rw [← Option.not_isSome_iff_eq_none, Option.isSome_iff_exists]
    rintro ⟨value', hread⟩
    simp only [RawAccount.tryFrom, Option.bind_eq_bind, Option.bind_eq_some_iff,
      Option.ite_none_right_eq_some] at hread
    obtain ⟨account, haccount, howner, hread⟩ := hread
    obtain ⟨type', value, hlookup⟩ := h.owned haccount howner
    rw [h.data hlookup, Option.some.injEq] at haccount
    subst haccount
    obtain rfl := tryDeserialize_accountData sha256 hsha hread
    simp [hlookup] at hvalue

theorem validateRolePermission_eq (h : Represents sha256 programId raw s)
    (hsha : Function.Injective fun type : AccountType => type.discriminator sha256)
    (roleInfo vault caller : Pubkey) (permission : UInt64) :
    RawAccount.validateRolePermission sha256 programId (raw roleInfo) roleInfo vault caller permission
      = s.validateRolePermission roleInfo vault caller permission := by
  have hread := h.tryFrom_eq hsha .roleAssignment roleInfo
  simp only [RawAccount.tryFrom, State.lookup] at hread
  unfold RawAccount.validateRolePermission State.validateRolePermission
  rw [← hread]
  congr 1
  funext _
  -- a missing account, a wrong owner and bytes that are no role end in the same error
  cases raw roleInfo with
  | none => rfl
  | some account =>
    by_cases howner : account.owner = programId
    . simp [howner, fetch, require, bind, Except.bind]
    . simp [howner, fetch, require, bind, Except.bind]

end Represents

def AccountType.all : List AccountType :=
  [.protocolConfig, .escrow, .vault, .vaultAsset, .roleAssignment, .withdrawalRequest]

theorem AccountType.mem_all (type : AccountType) : type ∈ all := by
  cases type <;> decide

def State.encode (s : State Pubkey) (key : Pubkey) (type : AccountType) :
    Option (RawAccount Pubkey) :=
  (s.lookup type key).map fun value => ⟨programId, accountData sha256 type type.space value⟩

/--
The ledger with the accounts of the program, and those of other programs as given.
-/
def State.toRaw (s : State Pubkey) (foreign : Pubkey → Option (RawAccount Pubkey)) (key : Pubkey) :
    Option (RawAccount Pubkey) :=
  (AccountType.all.findSome? (s.encode sha256 programId key)).or (foreign key)

namespace State

variable {sha256 programId} {s : State Pubkey} {foreign : Pubkey → Option (RawAccount Pubkey)}

theorem toRaw_of_lookup (hs : Reachable s) {type : AccountType} {key : Pubkey}
    {value : type.Data Pubkey} (hvalue : s.lookup type key = some value) :
    s.toRaw sha256 programId foreign key
      = some ⟨programId, accountData sha256 type type.space value⟩ := by
  have hencode : s.encode sha256 programId key type
      = some ⟨programId, accountData sha256 type type.space value⟩ := by
    rw [encode, hvalue]
    rfl
  unfold toRaw
  cases hfind : AccountType.all.findSome? (s.encode sha256 programId key) with
  | none =>
    rw [List.findSome?_eq_none_iff] at hfind
    rw [hfind type type.mem_all] at hencode
    cases hencode
  | some account =>
    obtain ⟨type', -, haccount⟩ := List.exists_of_findSome?_eq_some hfind
    obtain ⟨value', hvalue', -⟩ := Option.map_eq_some_iff.mp haccount
    obtain rfl := hs.lookup_unique hvalue hvalue'
    rw [← haccount, hencode]
    rfl

omit [DecidableEq Pubkey] [Solana Pubkey] in
theorem toRaw_of_vacant {key : Pubkey} (hnone : ∀ type, s.lookup type key = none) :
    s.toRaw sha256 programId foreign key = foreign key := by
  have hfind : AccountType.all.findSome? (s.encode sha256 programId key) = none := by
    rw [List.findSome?_eq_none_iff]
    intro type _
    rw [encode, hnone]
    rfl
  rw [toRaw, hfind, Option.none_or]

theorem represents_toRaw (hs : Reachable s)
    (hforeign : ∀ key account, foreign key = some account → account.owner ≠ programId) :
    Represents sha256 programId (s.toRaw sha256 programId foreign) s where
  data hvalue := toRaw_of_lookup hs hvalue
  owned {key account} haccount howner := by
    by_contra hnone
    simp only [not_exists] at hnone
    rw [toRaw_of_vacant] at haccount
    . exact hforeign key account haccount howner
    . intro type
      rw [← Option.not_isSome_iff_eq_none, Option.isSome_iff_exists]
      rintro ⟨value, hvalue⟩
      exact hnone type value hvalue

omit [DecidableEq Pubkey] [Solana Pubkey] [Borsh Pubkey] in
theorem lookup_eq_of_account {s' : State Pubkey} {key : Pubkey}
    (h : s'.account key = s.account key) (type : AccountType) :
    s'.lookup type key = s.lookup type key := by
  simp only [account, Account.mk.injEq] at h
  obtain ⟨hconfig, hescrow, hvault, hasset, hrole, hrequest, -, -⟩ := h
  cases type with
  | protocolConfig => exact hconfig
  | escrow => exact hescrow
  | vault => exact hvault
  | vaultAsset => exact hasset
  | roleAssignment => exact hrole
  | withdrawalRequest => exact hrequest

end State

def Action.writable : Action Pubkey → List Pubkey
  | .instruction ix _ => ix.writable
  | .thirdParty => []

omit [Borsh Pubkey] in
theorem Step.lookup_frame {s s' : State Pubkey} {a : Action Pubkey} (hs : Reachable s)
    (hstep : Step s a s') {key : Pubkey} (hkey : key ∉ a.writable) (type : AccountType) :
    s'.lookup type key = s.lookup type key := by
  cases a with
  | instruction ix now => exact State.lookup_eq_of_account (hstep.account_frame hs hkey) type
  | thirdParty =>
    cases hstep with
    | thirdParty => cases type <;> rfl

theorem Represents.step {sha256 : String → Vector UInt8 32} {programId : Pubkey}
    {raw : Pubkey → Option (RawAccount Pubkey)} {s s' : State Pubkey} {a : Action Pubkey}
    (h : Represents sha256 programId raw s) (hs : Reachable s) (hstep : Step s a s') :
    ∃ raw', Represents sha256 programId raw' s' ∧ ∀ key, key ∉ a.writable → raw' key = raw key := by
  let foreign : Pubkey → Option (RawAccount Pubkey) :=
    fun key => (raw key).filter fun account => account.owner ≠ programId
  refine ⟨s'.toRaw sha256 programId foreign, ?_, ?_⟩
  . apply State.represents_toRaw (hs.step hstep)
    intro key account haccount
    simp only [foreign, Option.filter_eq_some_iff, decide_eq_true_eq] at haccount
    exact haccount.2
  . intro key hkey
    have hframe := hstep.lookup_frame hs hkey
    by_cases hvacant : ∀ type, s'.lookup type key = none
    . rw [State.toRaw_of_vacant hvacant]
      cases hraw : raw key with
      | none => simp [foreign, hraw]
      | some account =>
        have howner : account.owner ≠ programId := by
          intro howner
          obtain ⟨type, value, hvalue⟩ := h.owned hraw howner
          rw [← hframe, hvacant] at hvalue
          cases hvalue
        simp [foreign, hraw, howner]
    . simp only [not_forall, ← ne_eq, Option.ne_none_iff_exists'] at hvacant
      obtain ⟨type, value, hvalue⟩ := hvacant
      rw [State.toRaw_of_lookup (hs.step hstep) hvalue]
      rw [hframe] at hvalue
      exact (h.data hvalue).symm

end Represents

/--
The bytes of the ledger determine the accounts: a handler that deserializes an account as some type
gets exactly what the map of that type holds, whatever accounts of other programs look like, and the
same holds for the role that `validate_role_permission` reads. A step writes the accounts it declares
as mutable and no others.
-/
theorem account_bytes_unambiguous [Borsh Pubkey] {sha256 : String → Vector UInt8 32}
    (hsha : Function.Injective fun type : AccountType => type.discriminator sha256)
    (programId : Pubkey) {s : State Pubkey} (hs : Reachable s) :
    (∃ raw, Represents sha256 programId raw s) ∧
      (∀ raw, Represents sha256 programId raw s →
        (∀ type key, RawAccount.tryFrom sha256 programId type (raw key) = s.lookup type key) ∧
        (∀ roleInfo vault caller permission,
          RawAccount.validateRolePermission sha256 programId (raw roleInfo) roleInfo vault caller
              permission
            = s.validateRolePermission roleInfo vault caller permission) ∧
        ∀ a s', Step s a s' → ∃ raw', Represents sha256 programId raw' s' ∧
          ∀ key, key ∉ a.writable → raw' key = raw key) ∧
      ∀ type key value, s.lookup type key = some value → s.token key = none ∧ s.mint key = none := by
  refine ⟨⟨s.toRaw sha256 programId fun _ => none, ?_⟩, ?_, ?_⟩
  . apply State.represents_toRaw hs
    simp
  . intro raw h
    refine ⟨h.tryFrom_eq hsha, h.validateRolePermission_eq hsha, ?_⟩
    intro a s' hstep
    exact h.step hs hstep
  . intro type key value hvalue
    exact hs.lookup_foreign hvalue

open Client Client.Scenario in
theorem account_bytes_unambiguous_requested :
    ∃ raw, Represents (Web3.sha256 (Vector UInt8 32)) (Key.wallet 11) raw
        (Scenario.start.final Scenario.requested) ∧
      ∀ type key, RawAccount.tryFrom (Web3.sha256 (Vector UInt8 32)) (Key.wallet 11) type (raw key)
        = (Scenario.start.final Scenario.requested).lookup type key := by
  obtain ⟨⟨raw, hraw⟩, h, -⟩ := account_bytes_unambiguous discriminator_injective (Key.wallet 11)
    ⟨_, Scenario.history_requested⟩
  exact ⟨raw, hraw, (h raw hraw).1⟩

end IronVault

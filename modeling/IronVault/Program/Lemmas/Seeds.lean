import IronVault.Program.Impl.Seeds

/-!
This module contains that no two addresses of the program share a preimage. The seeds have no
separators and some names extend others, so it is the length of a preimage that gives its kind away.
-/

namespace IronVault

inductive SeedKind where
  | protocol
  | escrow
  | escrowToken
  | vault
  | vaultAsset
  | vaultToken
  | role
  | withdrawal
  deriving DecidableEq

namespace SeedKind

def seed : SeedKind → List UInt8
  | protocol => protocolSeed
  | escrow => escrowSeed
  | escrowToken => escrowTokenSeed
  | vault => vaultSeed
  | vaultAsset => vaultAssetSeed
  | vaultToken => vaultTokenSeed
  | role => roleSeed
  | withdrawal => withdrawalSeed

def fieldsLength : SeedKind → Nat
  | protocol => 0
  | escrow | vault | withdrawal => 32 + 8
  | escrowToken => 32
  | vaultAsset | vaultToken | role => 32 + 32

theorem seed_injective : Function.Injective seed := by
  intro kind kind' h
  cases kind <;> cases kind' <;> revert h <;> decide

theorem length_seed_eq {kind kind' : SeedKind}
    (h : kind.seed.length + kind.fieldsLength = kind'.seed.length + kind'.fieldsLength) :
    kind.seed.length = kind'.seed.length := by
  -- only `vault_asset` and `vault_token` have the same sum, and these names are equally long
  cases kind <;> cases kind' <;> revert h <;> decide

end SeedKind

namespace Seeds

variable {seeds seeds' : Seeds (Vector UInt8 32)} {bump bump' : UInt8}

def kind : Seeds (Vector UInt8 32) → SeedKind
  | protocol => .protocol
  | escrow .. => .escrow
  | escrowToken .. => .escrowToken
  | vault .. => .vault
  | vaultAsset .. => .vaultAsset
  | vaultToken .. => .vaultToken
  | role .. => .role
  | withdrawal .. => .withdrawal

def fields : Seeds (Vector UInt8 32) → List UInt8
  -- The bytes between the name and the bump.
  | protocol => []
  | escrow key id | vault key id | withdrawal key id => Borsh.serialize (key, id)
  | escrowToken key => Borsh.serialize key
  | vaultAsset key key' | vaultToken key key' | role key key' => Borsh.serialize (key, key')

theorem length_fields (seeds : Seeds (Vector UInt8 32)) :
    seeds.fields.length = seeds.kind.fieldsLength := by
  cases seeds <;> simp [fields, kind, SeedKind.fieldsLength, Borsh.serialize_prod]

theorem preimage_eq (seeds : Seeds (Vector UInt8 32)) (bump : UInt8) :
    seedPreimage seeds bump = seeds.kind.seed ++ (seeds.fields ++ [bump]) := by
  unfold seedPreimage
  cases seeds <;> simp [seedBytes, kind, SeedKind.seed, fields, toLeBytes, Borsh.serialize]

theorem parts_eq (h : seedPreimage seeds bump = seedPreimage seeds' bump') :
    seeds.kind = seeds'.kind ∧ seeds.fields = seeds'.fields ∧ bump = bump' := by
  rw [preimage_eq, preimage_eq] at h
  have hlength := congrArg List.length h
  simp only [List.length_append, List.length_singleton, length_fields] at hlength
  have hseed : seeds.kind.seed.length = seeds'.kind.seed.length := by
    apply SeedKind.length_seed_eq
    omega
  obtain ⟨hseed, hrest⟩ := List.append_inj h hseed
  obtain ⟨hfields, hbump⟩ := List.append_inj' hrest rfl
  rw [List.singleton_inj] at hbump
  exact ⟨SeedKind.seed_injective hseed, hfields, hbump⟩

theorem eq_of_parts (hkind : seeds.kind = seeds'.kind) (hfields : seeds.fields = seeds'.fields) :
    seeds = seeds' := by
  -- the fields of one kind can be read back
  cases seeds with
  | protocol =>
    cases seeds' with
    | protocol => rfl
    | _ => exact SeedKind.noConfusion hkind
  | escrowToken =>
    cases seeds' with
    | escrowToken => rw [Borsh.serialize_injective hfields]
    | _ => exact SeedKind.noConfusion hkind
  | escrow =>
    cases seeds' with
    | escrow => exact Borsh.congr_of_serialize_eq (f := escrow) hfields
    | _ => exact SeedKind.noConfusion hkind
  | vault =>
    cases seeds' with
    | vault => exact Borsh.congr_of_serialize_eq (f := vault) hfields
    | _ => exact SeedKind.noConfusion hkind
  | vaultAsset =>
    cases seeds' with
    | vaultAsset => exact Borsh.congr_of_serialize_eq (f := vaultAsset) hfields
    | _ => exact SeedKind.noConfusion hkind
  | vaultToken =>
    cases seeds' with
    | vaultToken => exact Borsh.congr_of_serialize_eq (f := vaultToken) hfields
    | _ => exact SeedKind.noConfusion hkind
  | role =>
    cases seeds' with
    | role => exact Borsh.congr_of_serialize_eq (f := role) hfields
    | _ => exact SeedKind.noConfusion hkind
  | withdrawal =>
    cases seeds' with
    | withdrawal => exact Borsh.congr_of_serialize_eq (f := withdrawal) hfields
    | _ => exact SeedKind.noConfusion hkind

theorem preimage_inj :
    seedPreimage seeds bump = seedPreimage seeds' bump' ↔ seeds = seeds' ∧ bump = bump' := by
  constructor
  . intro h
    obtain ⟨hkind, hfields, hbump⟩ := parts_eq h
    exact ⟨eq_of_parts hkind hfields, hbump⟩
  . rintro ⟨rfl, rfl⟩
    rfl

end Seeds

end IronVault

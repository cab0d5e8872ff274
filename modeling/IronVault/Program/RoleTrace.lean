import IronVault.Program.Lemmas.WellFormed
import IronVault.Program.Symbolic

/-!
This module contains where the power of a role holder comes from: the last change of the role is a
grant, and it was signed by the authority that the vault had then. A revocation works at once, and
until the next grant.
-/

namespace IronVault

variable {Pubkey : Type} [DecidableEq Pubkey] [Solana Pubkey]

def Action.SetsRole (v principal : Pubkey) : Action Pubkey → Prop
  | .instruction (.grantRole ctx p _) _ => ctx.vault = v ∧ p = principal
  | .instruction (.revokeRole ctx p) _ => ctx.vault = v ∧ p = principal
  | _ => False

/--
The grant at `t` is the last change of the role in the history.
-/
structure LastGrant (tr before after : List (Transition (State Pubkey) (Action Pubkey)))
    (t : Transition (State Pubkey) (Action Pubkey)) (v principal : Pubkey) (permissions : UInt64) :
    Prop where
  split : tr = before ++ t :: after
  grant : ∃ ctx now vault, t.action = .instruction (.grantRole ctx principal permissions) now ∧
    ctx.vault = v ∧ t.pre.vault v = some vault ∧ ctx.authority = vault.authority
  last : ∀ u ∈ after, ¬ u.action.SetsRole v principal

def Granted (tr : List (Transition (State Pubkey) (Action Pubkey))) (v principal : Pubkey)
    (permission : UInt64) : Prop :=
  ∃ before t after permissions, LastGrant tr before after t v principal permissions ∧
    permissions &&& permission = permission

/--
The vault, the caller and the permission of an instruction that a role holder may use.
-/
def Instruction.roleUse : Instruction Pubkey → Option (Pubkey × Pubkey × UInt64)
  | .withdraw ctx _ => some (ctx.vault, ctx.caller, permissionWithdraw)
  | .requestWithdrawal ctx _ => some (ctx.vault, ctx.proposer, permissionRequestWithdrawal)
  | .updateLimits ctx _ => some (ctx.vault, ctx.caller, permissionManageLimits)
  | .cancelWithdrawal ctx => some (ctx.vault, ctx.caller, permissionCancelWithdrawal)
  | _ => none

/--
Who may use an instruction without a role.
-/
inductive Instruction.Intrinsic (s : State Pubkey) (ix : Instruction Pubkey)
    (v principal : Pubkey) : Prop where
  | authority {vault : Vault Pubkey} (hvault : s.vault v = some vault)
      (hprincipal : principal = vault.authority)
  | guardian {ctx : CancelWithdrawal Pubkey} {vault : Vault Pubkey}
      (hix : ix = .cancelWithdrawal ctx) (hvault : s.vault v = some vault)
      (hprincipal : principal = vault.guardian)
  | proposer {ctx : CancelWithdrawal Pubkey} {request : WithdrawalRequest Pubkey}
      (hix : ix = .cancelWithdrawal ctx)
      (hrequest : s.withdrawalRequest ctx.withdrawalRequest = some request)
      (hprincipal : principal = request.proposer)

section Step

variable {s s' : State Pubkey} {a : Action Pubkey} {v principal : Pubkey}

theorem Step.role_frame (hs : Reachable s) (hstep : Step s a s')
    (hother : ¬ a.SetsRole v principal) :
    s'.roleAssignment (address (.role v principal))
      = s.roleAssignment (address (.role v principal)) := by
  cases hstep.roleChange with
  | same h => rw [h]
  | @grant ctx p _ _ _ _ _ h =>
    rw [h.post_eq]
    apply Function.update_of_ne
    intro hkey
    rw [h.key_eq, address_inj, Seeds.role.injEq] at hkey
    exact hother ⟨hkey.1.symm, hkey.2.symm⟩
  | @revoke ctx p _ _ _ _ role h =>
    rw [h.post_eq]
    apply Function.update_of_ne
    intro hkey
    have hrole := (hs.roleAssignment h.role_eq).key_eq
    rw [← hkey, address_inj, Seeds.role.injEq, h.role_vault, h.role_principal] at hrole
    exact hother ⟨hrole.1.symm, hrole.2.symm⟩

theorem Step.holdsRole_frame (hs : Reachable s) (hstep : Step s a s')
    (hother : ¬ a.SetsRole v principal) (permission : UInt64) :
    s'.HoldsRole v principal permission ↔ s.HoldsRole v principal permission := by
  simp only [State.HoldsRole, hstep.role_frame hs hother]

theorem Step.holdsRole_of_grant {ctx : GrantRole Pubkey} {permissions : UInt64} {now : Int64}
    (hstep : Step s (.instruction (.grantRole ctx principal permissions) now) s')
    (permission : UInt64) :
    s'.HoldsRole ctx.vault principal permission ↔ permissions &&& permission = permission := by
  obtain ⟨event, -, heffect⟩ := hstep.effect
  cases heffect with
  | grantRole h => simp [h.post_eq, h.key_eq, State.HoldsRole, RoleAssignment.has]

theorem Step.not_holdsRole_of_revoke {ctx : RevokeRole Pubkey} {now : Int64} (hs : Reachable s)
    (hstep : Step s (.instruction (.revokeRole ctx principal) now) s') (permission : UInt64) :
    ¬ s'.HoldsRole ctx.vault principal permission := by
  obtain ⟨event, -, heffect⟩ := hstep.effect
  cases heffect with
  | @revokeRole _ _ _ _ _ _ role h =>
    have hkey := (hs.roleAssignment h.role_eq).key_eq
    rw [h.role_vault, h.role_principal] at hkey
    simp [h.post_eq, hkey, State.HoldsRole, RoleAssignment.has]

theorem Step.grant_signed {ctx : GrantRole Pubkey} {permissions : UInt64} {now : Int64}
    (hstep : Step s (.instruction (.grantRole ctx principal permissions) now) s') :
    ∃ vault, s.vault ctx.vault = some vault ∧ ctx.authority = vault.authority := by
  obtain ⟨event, -, heffect⟩ := hstep.effect
  cases heffect with
  | grantRole h => exact ⟨_, h.vault_eq, h.authority_eq.symm⟩

theorem Step.roleUse_authorized {ix : Instruction Pubkey} {now : Int64} {permission : UInt64}
    (hstep : Step s (.instruction ix now) s') (huse : ix.roleUse = some (v, principal, permission)) :
    ix.Intrinsic s v principal ∨ s.HoldsRole v principal permission := by
  obtain ⟨event, -, heffect⟩ := hstep.effect
  cases heffect with
  | withdraw h =>
    cases huse
    exact h.authorized.imp_left (.authority h.outflow.vault_eq)
  | requestWithdrawal h =>
    cases huse
    exact h.authorized.imp_left (.authority h.vault_eq)
  | updateLimits h =>
    cases huse
    exact h.authorized.imp_left (.authority h.vault_eq)
  | cancelWithdrawal h =>
    cases huse
    rcases h.authorized with hauth | hauth | hauth | hauth
    . exact .inl (.authority h.vault_eq hauth)
    . exact .inl (.guardian rfl h.vault_eq hauth)
    . exact .inl (.proposer rfl h.request_eq hauth)
    . exact .inr hauth
  | _ => simp [Instruction.roleUse] at huse

end Step

section History

variable {tr : List (Transition (State Pubkey) (Action Pubkey))} {s : State Pubkey}
variable {v principal : Pubkey} {permission : UInt64}

theorem History.granted_of_holdsRole (h : History tr s)
    (hrole : s.HoldsRole v principal permission) : Granted tr v principal permission := by
  induction h with
  | nil =>
    obtain ⟨role, hrole, -⟩ := hrole
    cases hrole
  | @snoc tr t u a run hstep ih =>
    by_cases hsets : a.SetsRole v principal
    . -- the last change of the role is this step
      unfold Action.SetsRole at hsets
      split at hsets
      . obtain ⟨rfl, rfl⟩ := hsets
        obtain ⟨vault, hvault, hauthority⟩ := hstep.grant_signed
        exact ⟨tr, _, [], _, ⟨rfl, ⟨_, _, vault, rfl, rfl, hvault, hauthority⟩, by simp⟩,
          (hstep.holdsRole_of_grant _).mp hrole⟩
      . obtain ⟨rfl, rfl⟩ := hsets
        exact absurd hrole (hstep.not_holdsRole_of_revoke ⟨tr, run⟩ _)
      . cases hsets
    . rw [hstep.holdsRole_frame ⟨tr, run⟩ hsets] at hrole
      obtain ⟨before, g, after, permissions, ⟨hsplit, hgrant, hlast⟩, hmask⟩ := ih hrole
      refine ⟨before, g, after ++ [⟨t, a, u⟩], permissions, ⟨?_, hgrant, ?_⟩, hmask⟩
      . rw [hsplit, List.append_assoc, List.cons_append]
      . intro w hw
        rw [List.mem_append, List.mem_singleton] at hw
        rcases hw with hw | rfl
        . exact hlast w hw
        . exact hsets

theorem History.holdsRole_of_granted (h : History tr s)
    (hgranted : Granted tr v principal permission) : s.HoldsRole v principal permission := by
  obtain ⟨before, t, after, permissions, ⟨rfl, ⟨ctx, now, _, haction, rfl, -, -⟩, hlast⟩, hmask⟩ :=
    hgranted
  obtain ⟨hpre, hstep, hafter⟩ := Run.of_cons_append h
  have hpost : Reachable t.post := Reachable.step ⟨before, hpre⟩ hstep
  rw [haction] at hstep
  have hrole := (hstep.holdsRole_of_grant permission).mpr hmask
  have hinv : Reachable s ∧ s.HoldsRole ctx.vault principal permission := by
    apply hafter.invariant (P := fun s => Reachable s ∧ s.HoldsRole ctx.vault principal permission)
      ⟨hpost, hrole⟩
    rintro x a y hmem hxy ⟨hx, hrole⟩
    have hother : ¬ a.SetsRole ctx.vault principal := hlast _ hmem
    exact ⟨hx.step hxy, (hxy.holdsRole_frame hx hother permission).mpr hrole⟩
  exact hinv.2

end History

/--
Exactly those hold a role whose last change is a grant by the authority of the vault, and everything
that a role can be used for goes back to such a grant or to an actor who needs no role.
-/
theorem role_use_traced_to_grant {tr : List (Transition (State Pubkey) (Action Pubkey))}
    {s : State Pubkey} (h : History tr s) (v principal : Pubkey) (permission : UInt64) :
    (s.HoldsRole v principal permission ↔ Granted tr v principal permission) ∧
      ∀ ix now s', Step s (.instruction ix now) s' →
        ix.roleUse = some (v, principal, permission) →
          ix.Intrinsic s v principal ∨ Granted tr v principal permission := by
  constructor
  . exact ⟨h.granted_of_holdsRole, h.holdsRole_of_granted⟩
  . intro ix now s' hstep huse
    exact (hstep.roleUse_authorized huse).imp_right h.granted_of_holdsRole

namespace Scenario

def operator : Key := .wallet 20

def granted : List (Instruction Key × Int64) := setup ++ [
  (.grantRole ⟨authority, .protocol, vault, .role vault operator⟩ operator permissionWithdraw, 4),
  (updateLimits, 5)
]

end Scenario

open Scenario in
theorem role_use_traced_to_grant_operator :
    (start.final granted).HoldsRole vault operator permissionWithdraw ∧
      Granted (trace granted) vault operator permissionWithdraw := by
  have hhistory : History (trace granted) (start.final granted) :=
    history_trace granted (by decide +kernel)
  have hrole : (start.final granted).HoldsRole vault operator permissionWithdraw := by
    refine ⟨_, rfl, rfl, rfl, ?_⟩
    decide +kernel
  exact ⟨hrole, (role_use_traced_to_grant hhistory vault operator permissionWithdraw).1.mp hrole⟩

end IronVault

import IronVault.Client.Lemmas.Cli
import IronVault.Client.Receipts

/-!
This module contains which command lines send a transaction, that the order of their options does not
matter, and that the chain does what the text of the command line says.
-/

namespace IronVault.Client.Cli

section Run

variable {Pubkey : Type} [DecidableEq Pubkey] [Borsh Pubkey] [Web3 Pubkey]
variable {env : Environment Pubkey} {client : IronVaultClient Pubkey} {connection : Connection Pubkey}
variable {sent : Sent Pubkey (Receipt Pubkey)} {argv : List String} {group action : String}
variable {l l' : List CliOption}

/--
The global options.
-/
structure Connects (env : Environment Pubkey) (l : List CliOption) (client : IronVaultClient Pubkey)
    (connection : Connection Pubkey) : Prop where
  keypair : ∃ path, Given l "keypair" path ∧
    env.loadKeypair (path.getD "~/.config/solana/id.json") = .ok client.payer
  url : ∃ url, Given l "url" url ∧ env.connect (url.getD "http://127.0.0.1:8899") = .ok connection
  programId : ∃ text, Given l "program-id" text ∧ env.programId text = .ok client.programId

omit [DecidableEq Pubkey] [Borsh Pubkey] in
theorem client_eq_ok_iff (h : Accepted l) :
    env.client (values l) = .ok (client, connection) ↔ Connects env l client connection := by
  unfold Environment.client
  simp only [Except.bind_eq_ok_iff, Except.pure_eq_ok_iff, Prod.mk.injEq]
  constructor
  . rintro ⟨payer, hpayer, connection', hurl, programId, hprogramId, hclient, hconnection⟩
    subst hclient hconnection
    exact ⟨⟨_, (given_iff h (by decide)).mpr rfl, hpayer⟩, ⟨_, (given_iff h (by decide)).mpr rfl, hurl⟩,
      ⟨_, (given_iff h (by decide)).mpr rfl, hprogramId⟩⟩
  . rintro ⟨⟨path, hpath, hpayer⟩, ⟨url, hurl, hconnect⟩, ⟨text, htext, hprogramId⟩⟩
    rw [given_iff h (by decide)] at hpath hurl htext
    rw [hpath, hurl, htext]
    exact ⟨_, hpayer, _, hconnect, _, hprogramId, rfl, rfl⟩

theorem run_eq_ok_iff :
    env.run argv = .ok (some (client, sent)) ↔ ∃ group action options connection method,
      group ≠ "help" ∧ parseInvocation argv = .ok ⟨group, action, options⟩ ∧
      env.client options = .ok (client, connection) ∧
      options.method env.date (group ++ " " ++ action) = .ok method ∧
      client.invoke connection env.randomBytes method = .ok sent := by
  unfold Environment.run
  simp only [Except.bind_eq_ok_iff]
  constructor
  . rintro ⟨⟨group, action, options⟩, hparse, hrun⟩
    split at hrun
    . cases hrun
    . next hgroup =>
      simp only [Except.bind_eq_ok_iff, Except.pure_eq_ok_iff] at hrun
      obtain ⟨⟨client', connection⟩, hclient, method, hmethod, sent', hsent, heq⟩ := hrun
      cases heq
      exact ⟨group, action, options, connection, method, hgroup, hparse, hclient, hmethod, hsent⟩
  . rintro ⟨group, action, options, connection, method, hgroup, hparse, hclient, hmethod, hsent⟩
    refine ⟨_, hparse, ?_⟩
    rw [if_neg hgroup]
    simp only [Except.bind_eq_ok_iff, Except.pure_eq_ok_iff]
    exact ⟨_, hclient, _, hmethod, _, hsent, rfl⟩

theorem run_sends_iff :
    env.run argv = .ok (some (client, sent)) ↔
      "--help" ∉ argv ∧ "-h" ∉ argv ∧ ∃ group action l method connection,
        argv = group :: action :: l.flatMap CliOption.argv ∧ Accepted l ∧
        Commands env.date l group action method ∧ Connects env l client connection ∧
        client.invoke connection env.randomBytes method = .ok sent := by
  rw [run_eq_ok_iff]
  constructor
  . rintro ⟨group, action, options, connection, method, hgroup, hparse, hclient, hmethod, hsent⟩
    obtain ⟨hlong, hshort, l, hargv, hl, rfl⟩ := (parseInvocation_eq_ok_iff hgroup).mp hparse
    exact ⟨hlong, hshort, group, action, l, method, connection, hargv, hl,
      (method_eq_ok_iff hl).mp hmethod, (client_eq_ok_iff hl).mp hclient, hsent⟩
  . rintro ⟨hlong, hshort, group, action, l, method, connection, hargv, hl, hcommands, hconnects, hsent⟩
    have hgroup : group ≠ "help" := by
      cases hcommands <;> decide
    exact ⟨group, action, values l, connection, method, hgroup,
      (parseInvocation_eq_ok_iff hgroup).mpr ⟨hlong, hshort, l, hargv, hl, rfl⟩,
      (client_eq_ok_iff hl).mpr hconnects, (method_eq_ok_iff hl).mpr hcommands, hsent⟩

theorem command_line_exact (env : Environment Pubkey) :
    (∀ argv client sent, env.run argv = .ok (some (client, sent)) ↔
      "--help" ∉ argv ∧ "-h" ∉ argv ∧ ∃ group action l method connection,
        argv = group :: action :: l.flatMap CliOption.argv ∧ Accepted l ∧
        Commands env.date l group action method ∧ Connects env l client connection ∧
        client.invoke connection env.randomBytes method = .ok sent) ∧
      ∀ group action l l', Accepted l → l.Perm l' →
        env.run (group :: action :: l.flatMap CliOption.argv)
          = env.run (group :: action :: l'.flatMap CliOption.argv) := by
  constructor
  . intro argv client sent
    exact run_sends_iff
  . intro group action l l' hl hperm
    have hl' : Accepted l' := hl.perm hperm
    have hmem (flag : String) : flag ∈ group :: action :: l.flatMap CliOption.argv
        ↔ flag ∈ group :: action :: l'.flatMap CliOption.argv := by
      simp only [List.mem_cons, List.mem_flatMap, hperm.mem_iff]
    have hparse : parseInvocation (group :: action :: l.flatMap CliOption.argv)
        = parseInvocation (group :: action :: l'.flatMap CliOption.argv) := by
      unfold parseInvocation
      simp only [hmem, parseOptions_values hl, parseOptions_values hl', values_perm hl hperm]
    unfold Environment.run
    rw [hparse]

end Run

section Chain

variable {Pubkey : Type} [DecidableEq Pubkey] [Solana Pubkey] [Borsh Pubkey] [Web3 Pubkey]

/-- The call that a receipt is for. -/
def call : Receipt Pubkey → Method Pubkey
  | .createEscrow params _ => .createEscrow params
  | .releaseEscrow params _ => .releaseEscrow params
  | .refundEscrow params _ => .refundEscrow params
  | .createVault params _ => .createVault params
  | .registerAsset params _ => .registerAsset params
  | .deposit params _ => .deposit params
  | .requestWithdrawal params _ => .requestWithdrawal params

end Chain

end IronVault.Client.Cli

namespace IronVault.Scenario

open Client Client.Cli

section

local instance : Web3 Key := handlerWeb3

def depositEnvironment : Environment Key where
  homedir := "/home/owner"
  readKeypair path :=
    if path = "/home/owner/.config/solana/id.json" then .ok authority else .error .external
  connect url := if url = "http://127.0.0.1:8899" then .ok mintConnection else .error .external
  date _ := ⟨none, by simp⟩
  randomBytes := .replicate 8 0
  ironVaultProgramAddress := .wallet 23

def depositOptions : List CliOption := [
  .pair "vault" "Vau1t", .json, .pair "mint" "Mint", .pair "amount" "0250",
  .pair "source-token" "Source"
]

def writtenParams : DepositParams Key where
  vault := .string "Vau1t"
  mint := .string "Mint"
  amount := .bigint 250
  sourceToken := some (.string "Source")

def writtenReceipt : Receipt Key :=
  .deposit writtenParams ⟨vault, vaultAsset, vaultToken, authorityToken⟩

theorem accepted_depositOptions : Accepted depositOptions where
  valid := by
    intro option hoption
    simp only [depositOptions, List.mem_cons, List.not_mem_nil, or_false] at hoption
    rcases hoption with rfl | rfl | rfl | rfl | rfl
    all_goals
      unfold CliOption.Valid
      decide
  distinct := by decide

theorem given_source : Given depositOptions "source-token" (some "Source") := by
  intro text
  simp [depositOptions, eq_comm]

theorem commands_deposit :
    Commands depositEnvironment.date depositOptions "vault" "deposit" (.deposit writtenParams) := by
  apply @Commands.deposit _ _ _ _ _ 250 (some "Source")
  . decide
  . decide
  . refine ⟨"0250", by decide, ?_⟩
    rw [decimal_iff]
    decide
  . exact given_source

theorem connects_deposit : Connects depositEnvironment depositOptions depositor mintConnection := by
  have hnone {name : String} (h : ∀ text, .pair name text ∉ depositOptions) :
      Given depositOptions name none := by
    intro text
    simp [h]
  refine ⟨⟨none, hnone (by simp [depositOptions]), ?_⟩, ⟨none, hnone (by simp [depositOptions]), ?_⟩,
    ⟨none, hnone (by simp [depositOptions]), rfl⟩⟩
  . decide
  . rfl

theorem invoke_written :
    depositor.invoke mintConnection (.replicate 8 0) (.deposit writtenParams)
      = .ok ⟨[depositInstruction], writtenReceipt⟩ := by
  have hasset : deriveVaultAssetAddress vault mint depositor.programId = vaultAsset :=
    depositor_derives (.vaultAsset vault mint)
  have htoken : deriveVaultTokenAddress vault mint depositor.programId = vaultToken :=
    depositor_derives (.vaultToken vault mint)
  unfold depositInstruction writtenReceipt
  rw [← hasset, ← htoken]
  rfl

theorem command_line_exact_deposit :
    depositEnvironment.run ["vault", "deposit", "--source-token", "Source", "--amount", "0250",
        "--mint", "Mint", "--json", "--vault", "Vau1t"]
      = .ok (some (depositor, ⟨[depositInstruction], writtenReceipt⟩)) := by
  obtain ⟨hexact, hperm⟩ := command_line_exact depositEnvironment
  have horder := hperm "vault" "deposit" depositOptions depositOptions.reverse accepted_depositOptions
    (List.reverse_perm _).symm
  refine horder.symm.trans ((hexact _ _ _).mpr ⟨by decide, by decide, _, _, depositOptions, _, _, rfl,
    accepted_depositOptions, commands_deposit, connects_deposit, invoke_written⟩)

end

end IronVault.Scenario

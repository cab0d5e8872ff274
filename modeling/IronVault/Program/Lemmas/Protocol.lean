import IronVault.Program.Impl.Protocol
import IronVault.Program.Lemmas.Accounts

namespace IronVault

variable {Pubkey : Type} [DecidableEq Pubkey] [Solana Pubkey]

open Solana

structure InitializeProtocol.Accepted (ctx : InitializeProtocol Pubkey) (s : State Pubkey)
    (admin guardian : Pubkey) (s' : State Pubkey) (event : IronVaultEvent Pubkey) : Prop where
  key_eq : ctx.protocolConfig = address .protocol
  fresh : s.unallocated ctx.protocolConfig
  authorities_ne : admin ≠ defaultKey ∧ guardian ≠ defaultKey ∧ admin ≠ guardian
  post_eq : s' = { s with
    protocolConfig := Function.update s.protocolConfig ctx.protocolConfig (some {
      version := initialSchemaVersion
      admin
      guardian
      pauseFlags := 0
      bump := (findProgramAddress (.protocol : Seeds Pubkey)).2
      reserved := .replicate 61 0 }) }
  event_eq : event = .protocolInitialized {
    version := initialSchemaVersion
    protocolConfig := ctx.protocolConfig
    admin
    guardian }

theorem InitializeProtocol.initializeProtocolAccount_ok {ctx : InitializeProtocol Pubkey}
    {s s' : State Pubkey} {admin guardian : Pubkey} {event : IronVaultEvent Pubkey}
    (h : ctx.initializeProtocolAccount s admin guardian = .ok (s', event)) :
    ctx.Accepted s admin guardian s' event := by
  simp only [initializeProtocolAccount, Except.bind_eq_ok_iff, State.init_eq_ok, require_eq_ok,
    Except.pure_eq_ok_iff, Prod.mk.injEq] at h
  obtain ⟨bump, ⟨hkey, hfresh, rfl⟩, -, hauth, rfl, rfl⟩ := h
  exact ⟨hkey, hfresh, hauth, rfl, rfl⟩

structure SetProtocolPause.Accepted (ctx : SetProtocolPause Pubkey) (s : State Pubkey)
    (flags : UInt32) (s' : State Pubkey) (event : IronVaultEvent Pubkey)
    (config : ProtocolConfig Pubkey) : Prop where
  config_eq : s.protocolConfig ctx.protocolConfig = some config
  known : flags &&& ~~~knownPauseFlags = 0
  caller_eq : ctx.caller = config.admin ∨ ctx.caller = config.guardian
  add_only : ctx.caller = config.guardian → flags &&& config.pauseFlags = config.pauseFlags
  post_eq : s' = { s with
    protocolConfig := Function.update s.protocolConfig ctx.protocolConfig
      (some { config with pauseFlags := flags }) }
  event_eq : event = .protocolPauseUpdated {
    version := initialSchemaVersion
    protocolConfig := ctx.protocolConfig
    caller := ctx.caller
    previousFlags := config.pauseFlags
    newFlags := flags }

theorem SetProtocolPause.setPause_ok {ctx : SetProtocolPause Pubkey} {s s' : State Pubkey}
    {flags : UInt32} {event : IronVaultEvent Pubkey}
    (h : ctx.setPause s flags = .ok (s', event)) : ∃ config, ctx.Accepted s flags s' event config := by
  simp only [setPause, Except.bind_eq_ok_iff, State.loadProtocolConfig_eq_ok, require_eq_ok,
    Except.pure_eq_ok_iff, Prod.mk.injEq] at h
  obtain ⟨config, ⟨hconfig, -⟩, -, hknown, -, hcaller, -, hadd, rfl, rfl⟩ := h
  exact ⟨config, hconfig, hknown, hcaller, hadd, rfl, rfl⟩

end IronVault

import IronVault.Program.Impl.Accounts

/-!
This module contains `initialize_protocol` and `set_protocol_pause`.
-/

namespace IronVault

variable {Pubkey : Type} [DecidableEq Pubkey] [Solana Pubkey]

structure InitializeProtocol (Pubkey : Type) where
  initializer : Pubkey
  protocolConfig : Pubkey

def InitializeProtocol.initializeProtocolAccount (ctx : InitializeProtocol Pubkey)
    (s : State Pubkey) (admin guardian : Pubkey) :
    Except Error (State Pubkey × IronVaultEvent Pubkey) := do
  let bump ← s.init ctx.protocolConfig .protocol
  require (admin ≠ Solana.defaultKey ∧ guardian ≠ Solana.defaultKey ∧ admin ≠ guardian)
    IronVaultError.invalidProtocolAuthority
  let config : ProtocolConfig Pubkey := {
    version := initialSchemaVersion
    admin
    guardian
    pauseFlags := 0
    bump
    reserved := .replicate 61 0
  }
  return (
    { s with protocolConfig := Function.update s.protocolConfig ctx.protocolConfig (some config) },
    .protocolInitialized {
      version := initialSchemaVersion
      protocolConfig := ctx.protocolConfig
      admin
      guardian
    }
  )

structure SetProtocolPause (Pubkey : Type) where
  caller : Pubkey
  protocolConfig : Pubkey

def SetProtocolPause.setPause (ctx : SetProtocolPause Pubkey) (s : State Pubkey) (flags : UInt32) :
    Except Error (State Pubkey × IronVaultEvent Pubkey) := do
  let config ← s.loadProtocolConfig ctx.protocolConfig
  require (flags &&& ~~~knownPauseFlags = 0) IronVaultError.invalidPauseFlags
  require (ctx.caller = config.admin ∨ ctx.caller = config.guardian)
    IronVaultError.unauthorizedProtocolPause
  require (ctx.caller = config.guardian → flags &&& config.pauseFlags = config.pauseFlags)
    IronVaultError.guardianCannotUnpause
  return (
    { s with
      protocolConfig := Function.update s.protocolConfig ctx.protocolConfig
        (some { config with pauseFlags := flags }) },
    .protocolPauseUpdated {
      version := initialSchemaVersion
      protocolConfig := ctx.protocolConfig
      caller := ctx.caller
      previousFlags := config.pauseFlags
      newFlags := flags
    }
  )

end IronVault

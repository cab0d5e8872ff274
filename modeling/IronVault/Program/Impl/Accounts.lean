import IronVault.Program.Events

/-!
This module contains what the handlers share: the account constraints that Anchor checks before a
handler runs, and the checks of the `security` modules. Constraints are grouped by account, so only
the choice between several errors of one rejected instruction may differ from the order in which
Anchor reports them. Left out is Anchor's check that no account is named twice as mutable: two
accounts of an instruction that can be the same are the two sides of its transfer, and the handlers
refuse these as well, after the transfer and with another error (`Aliasing`).
-/

namespace IronVault

variable {Pubkey : Type} [DecidableEq Pubkey] [Solana Pubkey]

open Solana

def checkSeeds (key : Pubkey) (seeds : Seeds Pubkey) (bump : UInt8) : Except Error Unit :=
  -- `seeds = [..], bump = stored`
  require (createProgramAddress seeds bump = some key) AnchorError.constraintSeeds

def checkCanonical (key : Pubkey) (seeds : Seeds Pubkey) : Except Error Unit :=
  -- `seeds = [..], bump`
  require (key = address seeds) AnchorError.constraintSeeds

def checkTokenProgram (key : Pubkey) : Except Error Unit :=
  -- `Interface<'info, TokenInterface>`
  require (isTokenProgram key) AnchorError.invalidProgramId

def requireProtocolActive (config : ProtocolConfig Pubkey) (flag : UInt32) : Except Error Unit :=
  require (!config.isPaused flag) IronVaultError.protocolPaused

def mintExtensionsSupported (mint : Mint Pubkey) : Bool :=
  mint.tokenProgram = tokenId || mint.extensionTypes.isEmpty

def TokenAccount.initializeAccount (tokenProgram mint owner : Pubkey) : TokenAccount Pubkey where
  tokenProgram
  mint
  owner
  amount := 0
  delegate := none
  delegatedAmount := 0
  frozen := false
  closeAuthority := none
  multisig := false
  memoRequired := false
  cpiGuard := false

namespace State

/--
`init, seeds = [..], bump`: the address is canonical and not in use. Returns the canonical bump.
-/
def init (s : State Pubkey) (key : Pubkey) (seeds : Seeds Pubkey) : Except Error UInt8 := do
  checkCanonical key seeds
  require (s.unallocated key) AnchorError.accountAlreadyInUse
  return (findProgramAddress seeds).2

def loadProtocolConfig (s : State Pubkey) (key : Pubkey) : Except Error (ProtocolConfig Pubkey) := do
  let config ← fetch (s.protocolConfig key) AnchorError.accountNotInitialized
  checkSeeds key .protocol config.bump
  return config

def loadEscrow (s : State Pubkey) (key : Pubkey) : Except Error (Escrow Pubkey) := do
  let escrow ← fetch (s.escrow key) AnchorError.accountNotInitialized
  checkSeeds key (.escrow escrow.maker escrow.escrowId) escrow.bump
  return escrow

def loadVault (s : State Pubkey) (key : Pubkey) : Except Error (Vault Pubkey) := do
  let vault ← fetch (s.vault key) AnchorError.accountNotInitialized
  checkSeeds key (.vault vault.namespaceAuthority vault.vaultId) vault.bump
  return vault

def loadVaultAsset (s : State Pubkey) (key vault mint : Pubkey) : Except Error (VaultAsset Pubkey) := do
  let asset ← fetch (s.vaultAsset key) AnchorError.accountNotInitialized
  checkSeeds key (.vaultAsset vault mint) asset.bump
  require (asset.vault = vault) AnchorError.constraintHasOne
  require (asset.mint = mint) AnchorError.constraintHasOne
  return asset

def loadWithdrawalRequest (s : State Pubkey) (key vault : Pubkey) :
    Except Error (WithdrawalRequest Pubkey) := do
  let request ← fetch (s.withdrawalRequest key) AnchorError.accountNotInitialized
  checkSeeds key (.withdrawal vault request.withdrawalId) request.bump
  require (request.vault = vault) AnchorError.constraintHasOne
  return request

def loadMint (s : State Pubkey) (key tokenProgram : Pubkey) : Except Error (Mint Pubkey) := do
  -- `InterfaceAccount<'info, Mint>` with the two constraints of the token policy
  let mint ← fetch (s.mint key) AnchorError.accountNotInitialized
  require (isTokenProgram mint.tokenProgram) AnchorError.accountOwnedByWrongProgram
  require (mint.tokenProgram = tokenProgram) IronVaultError.invalidTokenProgram
  require (mintExtensionsSupported mint) IronVaultError.unsupportedTokenExtension
  return mint

def loadToken (s : State Pubkey) (key mint tokenProgram : Pubkey) (wrongMint : IronVaultError) :
    Except Error (TokenAccount Pubkey) := do
  let account ← fetch (s.token key) AnchorError.accountNotInitialized
  require (isTokenProgram account.tokenProgram) AnchorError.accountOwnedByWrongProgram
  require (account.mint = mint) wrongMint
  require (account.tokenProgram = tokenProgram) IronVaultError.invalidTokenProgram
  return account

def loadOwnedToken (s : State Pubkey) (key owner mint tokenProgram : Pubkey)
    (wrongOwner wrongMint : IronVaultError) : Except Error (TokenAccount Pubkey) := do
  let account ← s.loadToken key mint tokenProgram wrongMint
  require (account.owner = owner) wrongOwner
  return account

def loadCustody (s : State Pubkey) (key : Pubkey) (seeds : Seeds Pubkey)
    (owner mint tokenProgram : Pubkey) (wrongOwner wrongMint : IronVaultError) :
    Except Error (TokenAccount Pubkey) := do
  checkCanonical key seeds
  s.loadOwnedToken key owner mint tokenProgram wrongOwner wrongMint

def transferChecked (s : State Pubkey) (x : TransferChecked Pubkey) (amount : UInt64)
    (decimals : UInt8) : Except Error (State Pubkey) := do
  -- `token_interface::transfer_checked` by CPI
  let token ← fetch (Solana.transferChecked s.token s.mint x amount decimals) Error.tokenProgram
  return { s with token }

def requireBalance (s : State Pubkey) (key : Pubkey) (amount : UInt64) (wrong : IronVaultError) :
    Except Error Unit := do
  -- `reload` followed by the check of the balance it read
  let account ← fetch (s.token key) AnchorError.accountNotInitialized
  require (account.amount = amount) wrong

def validateRolePermission (s : State Pubkey) (roleInfo vault caller : Pubkey)
    (permission : UInt64) : Except Error Unit := do
  require (roleInfo = address (.role vault caller)) IronVaultError.missingVaultPermission
  let role ← fetch (s.roleAssignment roleInfo) IronVaultError.missingVaultPermission
  require (role.vault = vault) IronVaultError.missingVaultPermission
  require (role.principal = caller) IronVaultError.missingVaultPermission
  require (role.has permission) IronVaultError.missingVaultPermission

/--
The authorization that `withdraw`, `request_withdrawal`, `update_limits` and `cancel_withdrawal`
share: an intrinsic actor brings no remaining account, anyone else exactly one, the role assignment.
-/
def authorize (s : State Pubkey) (intrinsic : Bool) (remainingAccounts : List Pubkey)
    (vault caller : Pubkey) (permission : UInt64) (unexpected missing : IronVaultError) :
    Except Error Unit :=
  if intrinsic then
    require (remainingAccounts = []) unexpected
  else
    match remainingAccounts with
    | [] => .error missing
    | [roleInfo] => s.validateRolePermission roleInfo vault caller permission
    | _ => .error unexpected

end State
end IronVault

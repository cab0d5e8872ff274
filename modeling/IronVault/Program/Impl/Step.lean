import IronVault.Util.Run
import IronVault.Program.Impl.Protocol
import IronVault.Program.Impl.Escrow
import IronVault.Program.Impl.Vault
import IronVault.Program.Impl.Withdrawal

/-!
This module contains the program as a transition system. A step is one successful instruction, with
any accounts, arguments and clock value, or something that third parties do with the token programs.
-/

namespace IronVault

variable {Pubkey : Type} [DecidableEq Pubkey] [Solana Pubkey]

inductive Instruction (Pubkey : Type) where
  | dispatch
  | initializeProtocol (ctx : InitializeProtocol Pubkey) (admin guardian : Pubkey)
  | setProtocolPause (ctx : SetProtocolPause Pubkey) (flags : UInt32)
  | createEscrow (ctx : CreateEscrow Pubkey) (escrowId : UInt64) (recipient : Pubkey)
      (amount : UInt64) (expiresAt : Int64)
  | releaseEscrow (ctx : ReleaseEscrow Pubkey)
  | refundEscrow (ctx : RefundEscrow Pubkey)
  | createVault (ctx : CreateVault Pubkey) (vaultId : UInt64) (guardian : Pubkey)
  | setVaultAuthority (ctx : SetVaultAuthority Pubkey) (newAuthority : Pubkey)
  | pauseVault (ctx : PauseVault Pubkey)
  | unpauseVault (ctx : UnpauseVault Pubkey)
  | registerAsset (ctx : RegisterAsset Pubkey)
  | deposit (ctx : Deposit Pubkey) (amount : UInt64)
  | withdraw (ctx : Withdraw Pubkey) (amount : UInt64)
  | grantRole (ctx : GrantRole Pubkey) (principal : Pubkey) (permissions : UInt64)
  | revokeRole (ctx : RevokeRole Pubkey) (principal : Pubkey)
  | updateLimits (ctx : UpdateLimits Pubkey) (policy : Policy)
  | requestWithdrawal (ctx : RequestWithdrawal Pubkey) (amount : UInt64)
  | executeWithdrawal (ctx : ExecuteWithdrawal Pubkey)
  | cancelWithdrawal (ctx : CancelWithdrawal Pubkey)

def Instruction.signer : Instruction Pubkey → Option Pubkey
  | .dispatch => none
  | .initializeProtocol ctx _ _ => some ctx.initializer
  | .setProtocolPause ctx _ => some ctx.caller
  | .createEscrow ctx _ _ _ _ => some ctx.maker
  | .releaseEscrow ctx => some ctx.maker
  | .refundEscrow ctx => some ctx.caller
  | .createVault ctx _ _ => some ctx.authority
  | .setVaultAuthority ctx _ => some ctx.currentAuthority
  | .pauseVault ctx => some ctx.caller
  | .unpauseVault ctx => some ctx.authority
  | .registerAsset ctx => some ctx.authority
  | .deposit ctx _ => some ctx.depositor
  | .withdraw ctx _ => some ctx.caller
  | .grantRole ctx _ _ => some ctx.authority
  | .revokeRole ctx _ => some ctx.authority
  | .updateLimits ctx _ => some ctx.caller
  | .requestWithdrawal ctx _ => some ctx.proposer
  | .executeWithdrawal ctx => some ctx.caller
  | .cancelWithdrawal ctx => some ctx.caller

/--
The entrypoint: run one instruction at clock value `now`. Only `dispatch`, the scaffolded `initialize`, emits no event.
-/
def process (s : State Pubkey) (now : Int64) :
    Instruction Pubkey → Except Error (State Pubkey × Option (IronVaultEvent Pubkey))
  | .dispatch => .ok (s, none)
  | .initializeProtocol ctx admin guardian =>
    emit (ctx.initializeProtocolAccount s admin guardian)
  | .setProtocolPause ctx flags => emit (ctx.setPause s flags)
  | .createEscrow ctx escrowId recipient amount expiresAt =>
    emit (ctx.create s escrowId recipient amount expiresAt now)
  | .releaseEscrow ctx => emit (ctx.release s now)
  | .refundEscrow ctx => emit (ctx.refund s now)
  | .createVault ctx vaultId guardian => emit (ctx.createVaultAccount s vaultId guardian)
  | .setVaultAuthority ctx newAuthority => emit (ctx.setAuthority s newAuthority)
  | .pauseVault ctx => emit (ctx.pause s)
  | .unpauseVault ctx => emit (ctx.unpause s)
  | .registerAsset ctx => emit (ctx.registerVaultAsset s now)
  | .deposit ctx amount => emit (ctx.depositTokens s amount)
  | .withdraw ctx amount => emit (ctx.withdrawTokens s amount now)
  | .grantRole ctx principal permissions => emit (ctx.grant s principal permissions)
  | .revokeRole ctx principal => emit (ctx.revoke s principal)
  | .updateLimits ctx policy => emit (ctx.update s policy now)
  | .requestWithdrawal ctx amount => emit (ctx.request s amount now)
  | .executeWithdrawal ctx => emit (ctx.execute s now)
  | .cancelWithdrawal ctx => emit (ctx.cancel s)
where
  emit (result : Except Error (State Pubkey × IronVaultEvent Pubkey)) :
      Except Error (State Pubkey × Option (IronVaultEvent Pubkey)) :=
    result.map fun (s, event) => (s, some event)

/--
What instructions of the token programs that no IronVault address signed can do to the token
accounts and mints: transfers, minting, burning, creating, closing, freezing and thawing accounts,
changes of authorities and of account extensions. They cannot create an account at an IronVault
address, to an account that only an IronVault address controls they can only add tokens or freeze and
thaw it, and a mint without extensions stays as it is.
-/
structure ThirdParty (s : State Pubkey) (token : Pubkey → Option (TokenAccount Pubkey))
    (mint : Pubkey → Option (Mint Pubkey)) : Prop where
  token_none {key : Pubkey} : IsProgramAddress key → s.token key = none → token key = none
  mint_none {key : Pubkey} : IsProgramAddress key → s.mint key = none → mint key = none
  token_some {key : Pubkey} {account : TokenAccount Pubkey} {m : Mint Pubkey} :
    s.token key = some account → IsProgramAddress account.owner → account.delegate = none →
    account.closeAuthority = none → s.mint account.mint = some m → mintExtensionsSupported m →
      ∃ amount frozen, account.amount ≤ amount ∧ token key = some { account with amount, frozen }
  mint_some {key : Pubkey} {m : Mint Pubkey} :
    s.mint key = some m → mintExtensionsSupported m → mint key = some m

inductive Action (Pubkey : Type) where
  | instruction (instruction : Instruction Pubkey) (now : Int64)
  | thirdParty

inductive Step : State Pubkey → Action Pubkey → State Pubkey → Prop where
  | instruction {s s' : State Pubkey} {now : Int64} {ix : Instruction Pubkey}
      {event : Option (IronVaultEvent Pubkey)}
      (hsigner : ∀ signer ∈ ix.signer, ¬ IsProgramAddress signer)
      (hok : process s now ix = .ok (s', event)) : Step s (.instruction ix now) s'
  | thirdParty {s : State Pubkey} {token : Pubkey → Option (TokenAccount Pubkey)}
      {mint : Pubkey → Option (Mint Pubkey)} (h : ThirdParty s token mint) :
      Step s .thirdParty { s with token, mint }

def emitted (s : State Pubkey) : Action Pubkey → Option (IronVaultEvent Pubkey)
  | .instruction ix now =>
    match process s now ix with
    | .ok (_, event) => event
    | .error _ => none
  | .thirdParty => none

def emittedEvents (tr : List (Transition (State Pubkey) (Action Pubkey))) :
    List (IronVaultEvent Pubkey) :=
  tr.filterMap fun t => emitted t.pre t.action

def History (tr : List (Transition (State Pubkey) (Action Pubkey))) (s : State Pubkey) : Prop :=
  Run Step State.empty tr s

def Reachable (s : State Pubkey) : Prop :=
  ∃ tr, History tr s

end IronVault

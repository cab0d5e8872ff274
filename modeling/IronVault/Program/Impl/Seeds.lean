import IronVault.Util.Borsh
import IronVault.Program.Basic

/-!
This module contains the bytes of the seeds that the program derives its addresses from. The runtime
hashes the plain concatenation of the seeds, a bump byte is the last of them.
-/

namespace IronVault

def byteString (text : String) : List UInt8 :=
  -- A literal of ASCII characters.
  text.toList.map fun c => UInt8.ofNat c.toNat

def protocolSeed : List UInt8 := byteString "protocol"
def escrowSeed : List UInt8 := byteString "escrow"
def escrowTokenSeed : List UInt8 := byteString "escrow_token"
def vaultSeed : List UInt8 := byteString "vault"
def vaultAssetSeed : List UInt8 := byteString "vault_asset"
def vaultTokenSeed : List UInt8 := byteString "vault_token"
def roleSeed : List UInt8 := byteString "role"
def withdrawalSeed : List UInt8 := byteString "withdrawal"

def toLeBytes (id : UInt64) : List UInt8 :=
  Borsh.toLittleEndian 8 id.toNat

def seedBytes : Seeds (Vector UInt8 32) → List (List UInt8)
  | .protocol => [protocolSeed]
  | .escrow maker escrowId => [escrowSeed, maker.toList, toLeBytes escrowId]
  | .escrowToken escrow => [escrowTokenSeed, escrow.toList]
  | .vault namespaceAuthority vaultId =>
    [vaultSeed, namespaceAuthority.toList, toLeBytes vaultId]
  | .vaultAsset vault mint => [vaultAssetSeed, vault.toList, mint.toList]
  | .vaultToken vault mint => [vaultTokenSeed, vault.toList, mint.toList]
  | .role vault principal => [roleSeed, vault.toList, principal.toList]
  | .withdrawal vault withdrawalId => [withdrawalSeed, vault.toList, toLeBytes withdrawalId]

def seedPreimage (seeds : Seeds (Vector UInt8 32)) (bump : UInt8) : List UInt8 :=
  (seedBytes seeds ++ [[bump]]).flatten

end IronVault

import DeployForge.Config

namespace DeployForge

namespace Profiles

def written (token value : String) : ProfileEntry := ⟨token, some value, none⟩

def fromVariable (token name : String) : ProfileEntry := ⟨token, none, some name⟩

def defaultMainnet : List ProfileEntry := [
  fromVariable "MARKETPLACE_ADDRESS" "MARKETPLACE_ADDRESS",
  fromVariable "ADMIN_ADDRESS" "ADMIN_ADDRESS",
  written "TON_DNS_ADDRESS" "EQC3dNlesgVD8YbAazcauIrXBPfiVhMMr5YYk2in0Mtsz0Bz",
  written "WEB3_ADDRESS" "EQBtcL4JA-PdPiUkB8utHcqdaftmUSTqdL8Z1EeXePLti_nK",
  written "USDT_ADDRESS" "EQCxE6mUtQJKFnGfaROTKOt1lZbDiiX1kCixRv7Nw2Id_sDs",
  written "TON_VAULT_ADDRESS" "EQDa4VOnTYlLvDJ0gZjNYm5PXfSmmtL6Vs6A_CZEtXCNICq_",
  written "USDT_VAULT_ADDRESS" "EQAYqo4u7VF0fa4DPAebk4g9lBytj2VFny7pzXR0trjtXQaO",
  written "WEB3_VAULT_ADDRESS" "EQA_Au61onx7O5q1C2Q92S2bMaEL5v96HAYH4fjms1NIERVE",
  written "USDT_TON_POOL_ADDRESS" "EQA-X_yo3fzzbDbJ_0bzFWKqtRuZFIRa1sJsveZJ1YpViO3r",
  written "WEB3_TON_POOL_ADDRESS" "EQBTzDJyEgoXm88EkVTciyyZBfQYI-8OfOEDZphfHaQcoY8V",
  written "WEB3_USDT_POOL_ADDRESS" "EQBJe_ykU9KEvg3c2kDyxGykbJoNCCMLQ6dJjaONDUfDgEL8",
  written "USERNAMES_COLLECTION_ADDRESS"
    "EQCA14o1-VWhS2efqoh_9M1b_A9DtKTuoqfmkn83AbJzwnPi"]

def defaultTestnet : List ProfileEntry := [
  fromVariable "MARKETPLACE_ADDRESS" "MARKETPLACE_ADDRESS_TESTNET",
  fromVariable "ADMIN_ADDRESS" "ADMIN_ADDRESS_TESTNET",
  written "TON_DNS_ADDRESS" "EQC3dNlesgVD8YbAazcauIrXBPfiVhMMr5YYk2in0Mtsz0Bz",
  written "WEB3_ADDRESS" "kQAAsaFsxbeo6paoe9fNCMwRApFR9LIsyGM8bGy4B53DlN_W",
  written "USDT_ADDRESS" "kQAke45nLBq-0fO-Vaxl8NwNwKibNtr7SheU0xqB4JTKexSm",
  written "TON_VAULT_ADDRESS" "kQDshQ2nyhezZleRdlZT12pvrj_cYp9XGmcRgYirA71DWlOb",
  written "USDT_VAULT_ADDRESS" "kQCYNvxl8U0kBV4SdtAI1Fc6ekN2oOJyl4fGtXUYsnJQRrps",
  written "WEB3_VAULT_ADDRESS" "kQBhDY5O1rzLL9xbDDR8kpZDSsFSMVWfkBcfjJLTmF9pNyur",
  written "USDT_TON_POOL_ADDRESS" "kQD5NnXlulLDVWM_ICHETwOQJJDfRH3XWjGXLT8TDXja4DgF",
  written "WEB3_TON_POOL_ADDRESS" "kQDJGTmBoTCM5CZa4lKpVmSDwCDRVxzL7kP_arFWNFaXeSgr",
  written "WEB3_USDT_POOL_ADDRESS" "kQC8xi6NzgtJGVmWks3RnBBbJhb7MtAcukMFwtCoAWzFja8D",
  written "USERNAMES_COLLECTION_ADDRESS"
    "EQCA14o1-VWhS2efqoh_9M1b_A9DtKTuoqfmkn83AbJzwnPi"]

def defaultTest : List ProfileEntry := [
  written "MARKETPLACE_ADDRESS" "EQAX21A4fIw7hX1jmRjvJT0DX7H_FUItj2duCBWtK4ayEiC_",
  written "ADMIN_ADDRESS" "EQAX21A4fIw7hX1jmRjvJT0DX7H_FUItj2duCBWtK4ayEiC_",
  written "TON_DNS_ADDRESS" "EQCTN6fMuBiue-NUT7EkYU128cYLbDuaH4egFmmc_bCKaMHK",
  written "WEB3_ADDRESS" "EQBefYnZpKZTyviz9KYpMgWTnzJbwRTQrtzJVCJxN5qNdLJM",
  written "USDT_ADDRESS" "EQCmj3-TgcVq-mCOwFMG7Z7OKkLdJxQTdPU11St93_oIzRaU",
  written "TON_VAULT_ADDRESS" "EQDshQ2nyhezZleRdlZT12pvrj_cYp9XGmcRgYirA71DWugR",
  written "USDT_VAULT_ADDRESS" "EQAtwRp7c0vR82jID5S2c34HleVxaiYjJBgMvFgdeXIkPjjm",
  written "WEB3_VAULT_ADDRESS" "EQByrIjpJYer4sxHzKb12sxVfYIZ358RFHdAdfY2SEr3P-EX",
  written "USDT_TON_POOL_ADDRESS" "EQBJyOz6bLTrI-QWQbmmnC5vFZOj-CN8VTIr-EIt8dnR9ZBC",
  written "WEB3_TON_POOL_ADDRESS" "EQBHKpZrJdpABx0kCFGQ201Aix_9GviqOXoyBpvvTRc_r9-j",
  written "WEB3_USDT_POOL_ADDRESS" "EQAYSAN3tEDQre7rUVik6cczd5gcxqyVdpi3JHvu4mrr3326",
  written "USERNAMES_COLLECTION_ADDRESS"
    "EQA6SpQ_qolLTMwe3pSVllchLRMs8AOmYwb-DxG3eZD9Qk0c"]

protected def default : Profiles where
  mainnet := defaultMainnet
  testnet := defaultTestnet
  test := defaultTest
  aggregator := "marketplace"
  overrideToken := "MARKETPLACE_ADDRESS"
  overrideValue := "EQAd3btl7yW1QJ7oOF0AmaWiwAq8Vtt1-b0359ni8y5muhKJ"

end Profiles

namespace Registry

def defaultTargets : List BuildTarget := [
  ⟨"JettonSimpleAuction", "auctions/jetton_simple_auction"⟩,
  ⟨"JettonMultipleAuction", "auctions/jetton_multiple_auction"⟩,
  ⟨"TonSimpleAuction", "auctions/ton_simple_auction"⟩,
  ⟨"TonMultipleAuction", "auctions/ton_multiple_auction"⟩,
  ⟨"JettonSimpleSale", "fix_price_sales/jetton_simple_sale"⟩,
  ⟨"JettonMultipleSale", "fix_price_sales/jetton_multiple_sale"⟩,
  ⟨"TonSimpleSale", "fix_price_sales/ton_simple_sale"⟩,
  ⟨"TonMultipleSale", "fix_price_sales/ton_multiple_sale"⟩,
  ⟨"JettonSimpleOffer", "purchase_offers/jetton_simple_offer"⟩,
  ⟨"TonSimpleOffer", "purchase_offers/ton_simple_offer"⟩,
  ⟨"MultipleOffer", "purchase_offers/multiple_offer"⟩]

protected def default : Registry := (ofList defaultTargets).toOption.get (by decide +kernel)

end Registry

namespace Project

/-- `Jett_on` keeps these contracts apart where tests are picked by a part of their name. -/
def defaultContracts : List String := [
  "TonSimpleSale",
  "Jett_onSimpleSale",
  "TonMultipleSale",
  "Jett_onMultipleSale",
  "DomainSwap",
  "TonSimpleAuction",
  "Jett_onSimpleAuction",
  "TonMultipleAuction",
  "Jett_onMultipleAuction",
  "TonSimpleOffer",
  "Jett_onSimpleOffer",
  "Marketplace",
  "MultipleOffer"]

protected def default : Project where
  paths := {}
  tools := {}
  probe := {}
  contracts := defaultContracts
  registry := .default
  profiles := .default

end Project

end DeployForge

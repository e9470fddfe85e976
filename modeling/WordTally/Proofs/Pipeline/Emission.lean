import WordTally.Proofs.Pipeline.Shards

set_option autoImplicit false

namespace WordTally.Pipeline

variable {σ : Type} {world : World σ} {settings : PipelineSettings} {seed : Tally}
  {stopAt : Option Nat} {surroundings : σ} {history : History σ} {config : Config σ}

end WordTally.Pipeline

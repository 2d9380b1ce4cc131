import NodeLocale.Localization.Batch

/-!
# Requests

What a localization service is asked: an instruction, which is the same for all batches, and the
nodes of a batch as indented JSON behind a fixed line.
-/

namespace NodeLocale

/-- What a localization service is asked for a batch. -/
structure LocalizationRequest where
  batch : Nat
  system : String
  user : String
deriving DecidableEq

namespace LocalizationRequest

/-- The instruction that is used unless the configuration replaces it. -/
def builtInSystem : String :=
  String.intercalate "\n"
    ["你是一个专业的 ComfyUI 节点翻译专家。请将提供的节点信息从英文翻译成中文。",
      "",
      "规则：",
      "1. 保持 JSON 结构和所有键完全不变，只把右侧的值翻译为中文。",
      "2. 不要增加或删除任何节点、字段或键。",
      "3. 节点标题采用\"动词+名词\"结构，版本标识（如 V2、SDXL、Ultra）保持原样。",
      "4. AI/ML 专业术语保持原样：IPAdapter、LoRA、VAE、CLIP、BBOX、SDXL、FaceID 等。",
      "5. 常用参数的标准译法：image -> 图像，mask -> 遮罩，strength -> 强度，weight -> 权重，",
      "   scale -> 缩放，size -> 大小，mode -> 模式，positive -> 正面，negative -> 负面。",
      "6. 编号保持原样，如 \"weights_1\" -> \"权重_1\"。",
      "",
      "只输出一个 JSON 对象，不要输出任何解释。"]

/-- The line in front of the nodes. -/
def leadIn : String := "请翻译以下节点信息:\n"

/-- The message with the nodes of a batch. -/
def userMessage (nodes : NodeMap) : String := leadIn ++ nodes.toJson.pretty

def ofBatch (system : String) (batch : Batch) : LocalizationRequest :=
  ⟨batch.index, system, userMessage batch.nodes⟩

end LocalizationRequest

end NodeLocale

import ThermalPrint.Text.Grid.Basic

/-
The characters that code page 932 has beyond JIS X 0208, symbols and ideographs of makers of
computers; and those that code page 950 has beyond Big5, or elsewhere.
-/

namespace ThermalPrint
namespace Text

def windows932Additions : Grid :=
  .ofRuns [
    ⟨0x81, 32, "～∥"⟩,
    ⟨0x81, 60, "－"⟩,
    ⟨0x81, 80, "￠￡"⟩,
    ⟨0x81, 137, "￢"⟩,
    ⟨0x87, 0, "①②③④⑤⑥⑦⑧⑨⑩⑪⑫⑬⑭⑮⑯⑰⑱⑲⑳ⅠⅡⅢⅣⅤⅥⅦⅧⅨⅩ�㍉㌔㌢㍍㌘㌧㌃㌶㍑㍗㌍㌦㌣㌫㍊㌻"⟩,
    ⟨0x87, 47, "㎜㎝㎞㎎㎏㏄㎡"⟩,
    ⟨0x87, 62, "㍻〝〟№㏍℡㊤㊥㊦㊧㊨㈱㈲㈹㍾㍽㍼���∮∑���∟⊿"⟩,
    ⟨0xed, 0, "纊褜鍈銈蓜俉炻昱棈鋹曻彅丨仡仼伀伃伹佖侒侊侚侔俍偀倢俿倞偆偰偂傔僴僘兊兤冝冾凬刕劜劦勀勛匀匇匤"⟩,
    ⟨0xed, 47, "卲厓厲叝﨎咜咊咩哿喆坙坥垬埈埇﨏塚增墲夋奓奛奝奣妤妺孖寀甯寘寬尞岦岺峵崧嵓﨑嵂嵭嶸嶹巐弡弴彧德"⟩,
    ⟨0xed, 94, "忞恝悅悊惞惕愠惲愑愷愰憘戓抦揵摠撝擎敎昀昕昻昉昮昞昤晥晗晙晴晳暙暠暲暿曺朎朗杦枻桒柀栁桄棏﨓楨"⟩,
    ⟨0xed, 141, "﨔榘槢樰橫橆橳橾櫢櫤毖氿汜沆汯泚洄涇浯涖涬淏淸淲淼渹湜渧渼溿澈澵濵瀅瀇瀨炅炫焏焄煜煆煇凞燁燾犱"⟩,
    ⟨0xee, 0, "犾猤猪獷玽珉珖珣珒琇珵琦琪琩琮瑢璉璟甁畯皂皜皞皛皦益睆劯砡硎硤硺礰礼神祥禔福禛竑竧靖竫箞精絈絜"⟩,
    ⟨0xee, 47, "綷綠緖繒罇羡羽茁荢荿菇菶葈蒴蕓蕙蕫﨟薰蘒﨡蠇裵訒訷詹誧誾諟諸諶譓譿賰賴贒赶﨣軏﨤逸遧郞都鄕鄧釚"⟩,
    ⟨0xee, 94, "釗釞釭釮釤釥鈆鈐鈊鈺鉀鈼鉎鉙鉑鈹鉧銧鉷鉸鋧鋗鋙鋐﨧鋕鋠鋓錥錡鋻﨨錞鋿錝錂鍰鍗鎤鏆鏞鏸鐱鑅鑈閒隆"⟩,
    ⟨0xee, 141, "﨩隝隯霳霻靃靍靏靑靕顗顥飯飼餧館馞驎髙髜魵魲鮏鮱鮻鰀鵰鵫鶴鸙黑��ⅰⅱⅲⅳⅴⅵⅶⅷⅸⅹ�￤＇＂"⟩]

def big5WindowsAdditions : Grid :=
  .ofRuns [
    ⟨0xa1, 5, "‧"⟩,
    ⟨0xa1, 14, "﹑"⟩,
    ⟨0xa1, 96, "¯"⟩,
    ⟨0xa1, 129, "～"⟩,
    ⟨0xa1, 144, "⊕⊙"⟩,
    ⟨0xa1, 156, "／"⟩,
    ⟨0xa2, 0, "＼∕﹨�￥�￠￡"⟩,
    ⟨0xa3, 127, "€"⟩,
    ⟨0xf9, 116, "碁銹裏墻恒粧嫺╔╦╗╠╬╣╚╩╝╒╤╕���╘╧╛╓╥╖╟╫╢╙╨╜║�����▓"⟩]

end Text
end ThermalPrint

import Gherkin.Language.Basic

namespace Gherkin
namespace Language

/-!
# The languages that come with the library

English, French, German, Spanish and Japanese.  In several of them one word
extends another, as `Et que ` extends `Et `; the longer one then stands first.
-/

def english : Language where
  code := "en".toList
  name := "English".toList
  native := "English".toList
  ands := ["And "].map String.toList
  backgrounds := ["Background"].map String.toList
  buts := ["But "].map String.toList
  examples := ["Examples", "Scenarios"].map String.toList
  features := ["Feature", "Business Need", "Ability"].map String.toList
  givens := ["Given "].map String.toList
  rules := ["Rule"].map String.toList
  scenarios := ["Example", "Scenario"].map String.toList
  outlines := ["Scenario Outline", "Scenario Template"].map String.toList
  thens := ["Then "].map String.toList
  whens := ["When "].map String.toList

def french : Language where
  code := "fr".toList
  name := "French".toList
  native := "français".toList
  ands := ["Et que ", "Et qu'", "Et "].map String.toList
  backgrounds := ["Contexte"].map String.toList
  buts := ["Mais que ", "Mais qu'", "Mais "].map String.toList
  examples := ["Exemples"].map String.toList
  features := ["Fonctionnalité"].map String.toList
  givens :=
    ["Soit ", "Sachant que ", "Sachant qu'", "Sachant ", "Etant donné que ",
      "Etant donné qu'", "Etant donné ", "Etant donnée ", "Etant donnés ",
      "Etant données ", "Étant donné que ", "Étant donné qu'", "Étant donné ",
      "Étant donnée ", "Étant donnés ", "Étant données "].map String.toList
  rules := ["Règle"].map String.toList
  scenarios := ["Exemple", "Scénario"].map String.toList
  outlines := ["Plan du scénario", "Plan du Scénario"].map String.toList
  thens := ["Alors ", "Donc "].map String.toList
  whens := ["Quand ", "Lorsque ", "Lorsqu'"].map String.toList

def german : Language where
  code := "de".toList
  name := "German".toList
  native := "Deutsch".toList
  ands := ["Und "].map String.toList
  backgrounds :=
    ["Grundlage", "Hintergrund", "Voraussetzungen", "Vorbedingungen"].map String.toList
  buts := ["Aber "].map String.toList
  examples := ["Beispiele"].map String.toList
  features := ["Funktionalität", "Funktion"].map String.toList
  givens := ["Angenommen ", "Gegeben sei ", "Gegeben seien "].map String.toList
  rules := ["Regel"].map String.toList
  scenarios := ["Beispiel", "Szenario"].map String.toList
  outlines := ["Szenariogrundriss", "Szenarien"].map String.toList
  thens := ["Dann "].map String.toList
  whens := ["Wenn "].map String.toList

def spanish : Language where
  code := "es".toList
  name := "Spanish".toList
  native := "español".toList
  ands := ["Y ", "E "].map String.toList
  backgrounds := ["Antecedentes"].map String.toList
  buts := ["Pero "].map String.toList
  examples := ["Ejemplos"].map String.toList
  features := ["Característica", "Necesidad del negocio", "Requisito"].map String.toList
  givens := ["Dado ", "Dada ", "Dados ", "Dadas "].map String.toList
  rules := ["Regla"].map String.toList
  scenarios := ["Ejemplo", "Escenario"].map String.toList
  outlines := ["Esquema del escenario"].map String.toList
  thens := ["Entonces "].map String.toList
  whens := ["Cuando "].map String.toList

def japanese : Language where
  code := "ja".toList
  name := "Japanese".toList
  native := "日本語".toList
  ands := ["かつ"].map String.toList
  backgrounds := ["背景"].map String.toList
  buts := ["しかし", "但し", "ただし"].map String.toList
  examples := ["例", "サンプル"].map String.toList
  features := ["フィーチャ", "機能"].map String.toList
  givens := ["前提"].map String.toList
  rules := ["ルール"].map String.toList
  scenarios := ["シナリオ"].map String.toList
  outlines :=
    ["シナリオアウトライン", "シナリオテンプレート", "テンプレ", "シナリオテンプレ"].map String.toList
  thens := ["ならば"].map String.toList
  whens := ["もし"].map String.toList

end Language
end Gherkin

import EntityForge.Template.Basic

/-!
The files of a Doctrine entity: the annotated PHP class, the trait that holds hand-written extensions
and the XML mapping, which lists id columns first.
-/
namespace EntityForge.Template

def phpClass : Template := [
  .lines ["<?php"],
  .when (.name "add_header") [
    .lines [
      "",
      "/**",
      " * AUTO GENERATED FILE",
      " *",
      " * Changes to this file are overwritten on the next run."],
    .line [
      .text " * Put custom code into './Extensions/",
      .hole (.name "class_name") .plain,
      .text ".php'."],
    .lines [" **/"]],
  .lines [""],
  .when (.name "php_namespace") [
    .line [.text "namespace ", .hole (.name "php_namespace") .plain, .text ";"],
    .lines [""]],
  .lines ["/**"],
  .line [.text " * @Entity @Table(name=", .hole (.name "table_name") .doubled, .text ")"],
  .lines [" **/"],
  .line [.text "class ", .hole (.name "class_name") .plain, .text " implements \\ArrayAccess \x7b"],
  .line [.text "    use Extensions\\", .hole (.name "class_name") .plain, .text ";"],
  .lines [""],
  .each "column" (.name "columns") [
    .when (.name "add_comments") [
      .lines ["    /**"],
      .line [
        .text "     * Stores the value of '",
        .hole (.field "column" "name") .plain,
        .text "' column."],
      .lines ["     *"],
      .line [.text "     * @var ", .hole (.field "column" "php_type") .plain],
      .lines ["     **/"]],
    .line [
      .text "    /** ",
      .when (.field "column" "is_id") "@Id ",
      .text "@Column(type=\"",
      .hole (.field "column" "doctrine_type") .plain,
      .text "\"",
      .when (.field "column" "nullable") ", nullable=true",
      .text ")",
      .when (.field "column" "is_auto") " @GeneratedValue",
      .text " **/"],
    .line [.text "    protected $", .hole (.field "column" "name") .plain, .text ";"],
    .lines [""]],
  .when (.name "add_comments") [
    .lines [
      "    /**",
      "     * Initializes a new instance of that class.",
      "     *",
      "     * The arguments are passed to 'onConstructor()' of the extension trait.",
      "     **/"]],
  .lines [
    "    public function __construct() \x7b",
    "        if (\\method_exists($this, 'onConstructor')) \x7b",
    "            \\call_user_func_array(array($this, 'onConstructor'),",
    "                                  \\func_get_args());",
    "        \x7d",
    "    \x7d"],
  .each "column" (.name "columns") [
    .lines [""],
    .when (.name "add_comments") [
      .lines ["    /**"],
      .line [
        .text "     * Gets the value of '",
        .hole (.field "column" "name") .plain,
        .text "' column."],
      .lines ["     *"],
      .line [
        .text "     * @return ",
        .hole (.field "column" "php_type") .plain,
        .text " The value of '",
        .hole (.field "column" "name") .plain,
        .text "'."],
      .lines ["     **/"]],
    .line [.text "    public function ", .hole (.field "column" "getter") .plain, .text "() \x7b"],
    .line [
      .text "        $valueToReturn = $this->",
      .hole (.field "column" "name") .plain,
      .text ";"],
    .when (.field "column" "is_json") [
      .lines [
        "        if (null !== $valueToReturn) \x7b",
        "            $valueToReturn = \\json_decode($valueToReturn, true);",
        "        \x7d"]],
    .lines ["", "        if (\\method_exists($this, 'onBeforeGet')) \x7b"],
    .line [
      .text "            $this->onBeforeGet('",
      .hole (.field "column" "name") .plain,
      .text "', $valueToReturn);"],
    .lines ["        \x7d", "", "        return $valueToReturn;", "    \x7d"],
    .when (.field "column" "setter") [
      .lines [""],
      .when (.name "add_comments") [
        .lines ["    /**"],
        .line [
          .text "     * Sets the value of '",
          .hole (.field "column" "name") .plain,
          .text "' column."],
        .lines ["     *"],
        .line [
          .text "     * @param ",
          .hole (.field "column" "php_type") .plain,
          .text " $newValue The new value."],
        .lines ["     *"],
        .line [.text "     * @return ", .hole (.name "class_name") .plain, .text " That instance."],
        .lines ["     **/"]],
      .line [
        .text "    public function ",
        .hole (.field "column" "setter") .plain,
        .text "($newValue) \x7b"],
      .lines ["        $valueToSet = $newValue;"],
      .when (.field "column" "is_json") [
        .lines [
          "        if (null !== $valueToSet) \x7b",
          "            $valueToSet = \\json_encode($valueToSet);",
          "        \x7d"]],
      .lines [""],
      .line [.text "        $oldValue = $this->", .hole (.field "column" "name") .plain, .text ";"],
      .lines ["        $doSet = true;", "        if (\\method_exists($this, 'onBeforeSet')) \x7b"],
      .line [
        .text "            $doSet = FALSE !== $this->onBeforeSet('",
        .hole (.field "column" "name") .plain,
        .text "', $valueToSet, $oldValue);"],
      .lines ["        \x7d", "", "        if ($doSet) \x7b"],
      .line [
        .text "            $this->",
        .hole (.field "column" "name") .plain,
        .text " = $valueToSet;"],
      .lines [""],
      .line [
        .text "            if ($oldValue !== $this->",
        .hole (.field "column" "name") .plain,
        .text ") \x7b"],
      .lines ["                if (\\method_exists($this, 'onSet')) \x7b"],
      .line [
        .text "                    $this->onSet('",
        .hole (.field "column" "name") .plain,
        .text "', $this->",
        .hole (.field "column" "name") .plain,
        .text ", $oldValue);"],
      .lines [
        "                \x7d",
        "            \x7d",
        "        \x7d",
        "",
        "        if (\\method_exists($this, 'onSetComplete')) \x7b"],
      .line [
        .text "            $this->onSetComplete('",
        .hole (.field "column" "name") .plain,
        .text "', $doSet, $this->",
        .hole (.field "column" "name") .plain,
        .text ", $oldValue, $newValue);"],
      .lines ["        \x7d", "", "        return $this;", "    \x7d"]]],
  .lines [""],
  .when (.name "add_comments") [
    .lines [
      "    /**",
      "     * Copies the values of the columns to an array or object.",
      "     *",
      "     * @param array|\\ArrayAccess &$target The target.",
      "     * @param callable|string $columnFilter A predicate ($columnName, $value) that returns FALSE to skip a column, or a regular expression for the column names.",
      "     *"],
    .line [.text "     * @return ", .hole (.name "class_name") .plain, .text " That instance."],
    .lines ["     **/"]],
  .lines [
    "    public function copy_columns_to(&$target, $columnFilter = null) \x7b",
    "        if (null !== $columnFilter && !\\is_callable($columnFilter)) \x7b",
    "            $pattern = \\trim((string)$columnFilter);",
    "",
    "            $columnFilter = function($columnName, $value) use ($pattern) \x7b",
    "                return 1 === \\preg_match($pattern, $columnName);",
    "            \x7d;",
    "        \x7d",
    "",
    "        foreach ($this->get_columns() as $columnName => $value) \x7b",
    "            if (null === $columnFilter || FALSE !== $columnFilter($columnName, $value)) \x7b",
    "                $target[$columnName] = $value;",
    "            \x7d",
    "        \x7d",
    "",
    "        return $this;",
    "    \x7d",
    ""],
  .when (.name "add_comments") [
    .lines [
      "    /**",
      "     * Returns all column values as array.",
      "     *",
      "     * @return array The column values.",
      "     **/"]],
  .lines [
    "    public function get_columns() \x7b",
    "        $result = array();",
    "        foreach ($this->get_getters() as $columnName => $getter) \x7b",
    "            $result[$columnName] = \\call_user_func($getter);",
    "        \x7d",
    "",
    "        return $result;",
    "    \x7d",
    ""],
  .when (.name "add_comments") [
    .lines [
      "    /**",
      "     * Returns the getters of all columns.",
      "     *",
      "     * @return array The getters, indexed by column name.",
      "     **/"]],
  .lines ["    public function get_getters() \x7b", "        return array("],
  .each "column" (.name "columns") [
    .line [
      .text "            '",
      .hole (.field "column" "name") .plain,
      .text "' => array($this, '",
      .hole (.field "column" "getter") .plain,
      .text "'),"]],
  .lines ["        );", "    \x7d", ""],
  .when (.name "add_comments") [
    .lines [
      "    /**",
      "     * Returns the setters of all columns that can be set.",
      "     *",
      "     * @return array The setters, indexed by column name.",
      "     **/"]],
  .lines ["    public function get_setters() \x7b", "        return array("],
  .each "column" (.name "columns") [
    .when (.field "column" "setter") [
      .line [
        .text "            '",
        .hole (.field "column" "name") .plain,
        .text "' => array($this, '",
        .hole (.field "column" "setter") .plain,
        .text "'),"]]],
  .lines ["        );", "    \x7d", ""],
  .when (.name "add_comments") [
    .lines [
      "    /**",
      "     * Sets a list of columns.",
      "     *",
      "     * @param array|\\Traversable $columnsToSet The values to set, indexed by column name.",
      "     *"],
    .line [.text "     * @return ", .hole (.name "class_name") .plain, .text " That instance."],
    .lines ["     **/"]],
  .lines [
    "    public function set_columns($columnsToSet) \x7b",
    "        if (null === $columnsToSet) \x7b",
    "            return $this;",
    "        \x7d",
    "",
    "        $allSetters = $this->get_setters();",
    "        foreach ($columnsToSet as $columnName => $value) \x7b",
    "            $columnName = \\trim($columnName);",
    "",
    "            \\call_user_func($allSetters[$columnName], $value);",
    "        \x7d",
    "",
    "        return $this;",
    "    \x7d",
    "",
    "    #[\\ReturnTypeWillChange]",
    "    public function offsetExists($columnName) \x7b",
    "        return \\array_key_exists(\\trim($columnName), $this->get_getters());",
    "    \x7d",
    "",
    "    #[\\ReturnTypeWillChange]",
    "    public function offsetGet($columnName) \x7b",
    "        $allGetters = $this->get_getters();",
    "",
    "        return \\call_user_func($allGetters[\\trim($columnName)]);",
    "    \x7d",
    "",
    "    #[\\ReturnTypeWillChange]",
    "    public function offsetSet($columnName, $value) \x7b",
    "        $this->set_columns(array($columnName => $value));",
    "    \x7d",
    "",
    "    #[\\ReturnTypeWillChange]",
    "    public function offsetUnset($columnName) \x7b",
    "        $this->offsetSet($columnName, null);",
    "    \x7d",
    "\x7d"]]

def phpTrait : Template := [
  .lines ["<?php", ""],
  .line [.text "namespace ", .hole (.name "trait_namespace") .plain, .text ";"],
  .lines ["", "/**"],
  .line [.text " * Extensions for '", .hole (.name "entity_name") .plain, .text "' entity."],
  .lines [" *", " * This file is created once and never overwritten.", " **/"],
  .line [.text "trait ", .hole (.name "class_name") .plain, .text " \x7b"],
  .lines [
    "    /**",
    "     * Is invoked by the constructor of the entity.",
    "     *",
    "     * @param array|\\Traversable $columnsToSet The initial column values.",
    "     **/",
    "    public function onConstructor($columnsToSet = null) \x7b",
    "        $this->set_columns($columnsToSet);",
    "    \x7d",
    "",
    "    /**",
    "     * Is invoked before a column value is returned.",
    "     *",
    "     * @param string $columnName The name of the column.",
    "     * @param mixed &$valueToReturn The value to return, can be replaced.",
    "     **/",
    "    public function onBeforeGet($columnName, &$valueToReturn) \x7b",
    "    \x7d",
    "",
    "    /**",
    "     * Is invoked before a column value is set.",
    "     *",
    "     * @param string $columnName The name of the column.",
    "     * @param mixed &$valueToSet The value to set, can be replaced.",
    "     * @param mixed $currentValue The current value.",
    "     *",
    "     * @return bool|null Return FALSE to keep the current value.",
    "     **/",
    "    public function onBeforeSet($columnName, &$valueToSet, $currentValue) \x7b",
    "    \x7d",
    "",
    "    /**",
    "     * Is invoked after a column value has been changed.",
    "     *",
    "     * @param string $columnName The name of the column.",
    "     * @param mixed $newValue The new value.",
    "     * @param mixed $oldValue The old value.",
    "     **/",
    "    public function onSet($columnName, $newValue, $oldValue) \x7b",
    "    \x7d",
    "",
    "    /**",
    "     * Is invoked after each attempt to set a column value.",
    "     *",
    "     * @param string $columnName The name of the column.",
    "     * @param bool $hasBeenSet The value has been set or not.",
    "     * @param mixed $currentValue The current value.",
    "     * @param mixed $oldValue The old value.",
    "     * @param mixed $newValue The value that should have been set.",
    "     **/",
    "    public function onSetComplete($columnName, $hasBeenSet, $currentValue, $oldValue, $newValue) \x7b",
    "    \x7d",
    "\x7d"]]

def xmlMapping : Template := [
  .lines ["<?xml version=\"1.0\" encoding=\"UTF-8\"?>"],
  .line [.text "<doctrine-mapping xmlns=\"", .hole (.name "xmlns") .plain, .text "\""],
  .lines ["                  xmlns:xsi=\"http://www.w3.org/2001/XMLSchema-instance\""],
  .line [
    .text "                  xsi:schemaLocation=\"",
    .hole (.name "xmlns") .plain,
    .text " ",
    .hole (.name "xsd") .plain,
    .text "\">"],
  .when (.name "add_header") [
    .lines ["    <!-- AUTO GENERATED FILE -->"]],
  .line [
    .text "    <entity name=\"",
    .hole (.name "entity_name") .escaped,
    .text "\" table=\"",
    .hole (.name "table_name") .escaped,
    .text "\">"],
  .each "column" (.name "mapping_columns") [
    .choose (.field "column" "is_id") [
      .choose (.field "column" "is_auto") [
        .line [
          .text "        <id name=\"",
          .hole (.field "column" "name") .plain,
          .text "\" type=\"",
          .hole (.field "column" "doctrine_type") .plain,
          .text "\">"],
        .lines ["            <generator strategy=\"AUTO\" />", "        </id>"]] [
        .line [
          .text "        <id name=\"",
          .hole (.field "column" "name") .plain,
          .text "\" type=\"",
          .hole (.field "column" "doctrine_type") .plain,
          .text "\" />"]]] [
      .line [
        .text "        <field name=\"",
        .hole (.field "column" "name") .plain,
        .text "\" type=\"",
        .hole (.field "column" "doctrine_type") .plain,
        .text "\"",
        .when (.field "column" "nullable") " nullable=\"true\"",
        .text " />"]]],
  .lines ["    </entity>", "</doctrine-mapping>"]]

end EntityForge.Template
